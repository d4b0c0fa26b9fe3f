/-
  PureBoot.Approvals.FourEyes — who an approved request was approved by.

  The four-eye principle: an approved request has at least `required_approvers`
  approve votes of pairwise different people, none of them the requester.  A
  person is met under a name and, if given, under an id.  The service path checks
  both; the legacy path checks the name only, so a run keeps the principle as long
  as no accepted legacy approval comes under an id that is already there.

  Main results:
    * `peopleInv_change` — one change of an approval keeps the invariant;
    * `four_eyes_run` — the principle in every state of such a run.
-/
import Mathlib.Data.List.Sublists
import PureBoot.Approvals.Steps

namespace PureBoot.Approvals

open PureBoot.Lib

/-! ## §1. The principle. -/

/-- The vote is not the requester's, by name or by a non-null id. -/
def NotRequester (a : Approval) (v : ApprovalVote) : Prop :=
  v.userName ≠ a.requesterName ∧ (a.requesterId ≠ none → v.userId ≠ a.requesterId)

instance (a : Approval) (v : ApprovalVote) : Decidable (NotRequester a v) :=
  inferInstanceAs (Decidable (_ ∧ (_ → _)))

/-- **FOUR EYES**: an approved request has enough approve votes of pairwise
different people other than the requester. -/
def FourEyes (a : Approval) : Prop :=
  a.status = .approved → ∃ vs ∈ a.votes.sublists',
    (∀ v ∈ vs, v.vote = .approve ∧ NotRequester a v) ∧ vs.Pairwise Distinct
      ∧ a.requiredApprovers ≤ vs.length

/-- Every approval of the table keeps the principle. -/
def FourEyesOk (db : DB) : Prop :=
  ∀ a ∈ db.approvals.rows, FourEyes a

instance (a : Approval) : Decidable (FourEyes a) :=
  inferInstanceAs (Decidable (_ → _))

instance (db : DB) : Decidable (FourEyesOk db) :=
  inferInstanceAs (Decidable (∀ a ∈ _, _))

/-! ## §2. The invariant. -/

/-- The approve votes of an approval, in creation order. -/
def Approval.approveVotes (a : Approval) : List ApprovalVote :=
  a.votes.filter (fun v => v.vote = .approve)

theorem approveCount_eq (a : Approval) : a.approveCount = a.approveVotes.length :=
  List.countP_eq_length_filter

/-- The approve votes are of different people other than the requester, and there
are enough of them once the request is approved. -/
structure PeopleInv (a : Approval) : Prop where
  distinct : a.approveVotes.Pairwise Distinct
  notRequester : ∀ v ∈ a.approveVotes, NotRequester a v
  enough : a.status = .approved → a.requiredApprovers ≤ a.approveCount

theorem PeopleInv.fourEyes {a : Approval} (h : PeopleInv a) : FourEyes a := by
  intro happ
  refine ⟨a.approveVotes, List.mem_sublists'.mpr List.filter_sublist, ?_, h.distinct, ?_⟩
  · intro v hv
    have hkind : v.vote = .approve := by simpa using (List.mem_filter.mp hv).2
    exact ⟨hkind, h.notRequester v hv⟩
  · rw [← approveCount_eq]
    exact h.enough happ

/-- What the invariant asks of a voter: an approver met under a new name and, if
any, a new id. -/
def NewApprover (a : Approval) (v : ApprovalVote) : Prop :=
  v.vote = .approve →
    NotRequester a v ∧ ∀ w ∈ a.approveVotes, Distinct w v

theorem newApprover_of_newVoter {a : Approval} {v : ApprovalVote} (h : NewVoter a v) :
    NewApprover a v := by
  obtain ⟨⟨hname, hnames⟩, hreq, hids⟩ := h
  intro _
  refine ⟨⟨hname, fun _ heq => hreq heq.symm⟩, ?_⟩
  intro w hw
  have hw := List.mem_of_mem_filter hw
  exact ⟨hnames w hw, fun _ => hids w hw⟩

theorem peopleInv_new {a : Approval} (h : IsNew a) : PeopleInv a := by
  have hnone : a.approveVotes = [] := by
    unfold Approval.approveVotes
    rw [h.votes]
    rfl
  refine ⟨?_, ?_, ?_⟩
  · rw [hnone]
    exact .nil
  · rw [hnone]
    simp
  · intro happ
    rw [h.status] at happ
    cases happ

/-- The status after the threshold check tells what the counts were. -/
theorem resolve_approved {now : Int} {a : Approval} (hp : a.status = .pending)
    (h : (a.resolve now).status = .approved) : a.requiredApprovers ≤ a.approveCount := by
  unfold Approval.resolve Approval.outcome at h
  by_cases hreq : a.requiredApprovers ≤ a.approveCount
  · exact hreq
  · rw [if_neg hreq] at h
    by_cases hrej : a.requiredApprovers ≤ a.rejectCount
    · rw [if_pos hrej] at h
      cases h
    · rw [if_neg hrej] at h
      have h : a.status = .approved := h
      rw [hp] at h
      cases h

/-- **ONE CHANGE** keeps the invariant, if an approver is new. -/
theorem peopleInv_change {now : Int} {a a' : Approval} (hinv : PeopleInv a)
    (h : Change NewApprover now a a') : PeopleInv a' := by
  cases h with
  | kept _ h =>
      have hvotes : a'.approveVotes = a.approveVotes := by
        unfold Approval.approveVotes
        rw [h.votes]
      refine ⟨?_, ?_, ?_⟩
      · rw [hvotes]
        exact hinv.distinct
      · intro v hv
        rw [hvotes] at hv
        unfold NotRequester
        rw [h.requesterName, h.requesterId]
        exact hinv.notRequester v hv
      · intro happ
        rw [h.status] at happ
        rw [h.requiredApprovers, approveCount_eq, hvotes, ← approveCount_eq]
        exact hinv.enough happ
  | closed status _ hstatus =>
      refine ⟨hinv.distinct, hinv.notRequester, ?_⟩
      intro (happ : status = .approved)
      rcases hstatus with h | h <;> rw [h] at happ <;> cases happ
  | voted v hp hnew =>
      obtain ⟨-, hrid, hrname, hreq, hvotes⟩ := resolve_same now { a with votes := a.votes ++ [v] }
      have happrove : (a.addVote now v).approveVotes
          = a.approveVotes ++ [v].filter (fun v => v.vote = .approve) := by
        unfold Approval.approveVotes Approval.addVote
        rw [hvotes]
        exact List.filter_append ..
      -- the requester is untouched, so the old votes are still nobody's own
      have hold : ∀ w ∈ a.approveVotes, NotRequester (a.addVote now v) w := by
        intro w hw
        unfold NotRequester Approval.addVote
        rw [hrname, hrid]
        exact hinv.notRequester w hw
      have henough : (a.addVote now v).status = .approved →
          (a.addVote now v).requiredApprovers ≤ (a.addVote now v).approveCount := by
        intro happ
        have hle := resolve_approved (a := { a with votes := a.votes ++ [v] }) hp happ
        unfold Approval.addVote Approval.approveCount
        rw [hreq, hvotes]
        exact hle
      by_cases hkind : v.vote = .approve
      · obtain ⟨hnr, hdist⟩ := hnew hkind
        have hone : [v].filter (fun v => v.vote = .approve) = [v] := by simp [hkind]
        rw [hone] at happrove
        refine ⟨?_, ?_, henough⟩
        · rw [happrove, List.pairwise_append]
          refine ⟨hinv.distinct, List.pairwise_singleton _ _, ?_⟩
          intro w hw x hx
          rw [List.mem_singleton.mp hx]
          exact hdist w hw
        · intro w hw
          rw [happrove] at hw
          rcases List.mem_append.mp hw with hw | hw
          · exact hold w hw
          · rw [List.mem_singleton.mp hw]
            unfold NotRequester Approval.addVote
            rw [hrname, hrid]
            exact hnr
      · have hnone : [v].filter (fun v => v.vote = .approve) = [] := by simp [hkind]
        rw [hnone, List.append_nil] at happrove
        refine ⟨?_, ?_, henough⟩
        · rw [happrove]
          exact hinv.distinct
        · rw [happrove]
          exact hold

/-! ## §3. Runs. -/

/-- The id is the requester's or that of an earlier approve vote. -/
def idReused (a : Approval) (userId : Option String) : Bool :=
  userId ≠ none
    && (a.requesterId = userId || a.votes.any (fun w => w.vote = .approve && w.userId = userId))

/-- The request is a legacy approval that passes the checks of `_cast_vote` and
comes under an id that is already there. -/
def legacyIdReused (db : DB) (r : Request) : Bool :=
  match r.op with
  | .approveRequest approvalId data =>
      match db.approvals.get? approvalId with
      | some a =>
          checkLegacyVote r.now a data.userName = none && idReused a data.userId
      | none => false
  | _ => false

theorem newApprover_of_not_idReused {now : Int} {a : Approval} {data : LegacyVoteCreate}
    {kind : VoteKind} (hcheck : checkLegacyVote now a data.userName = none)
    (hid : idReused a data.userId = false) : NewApprover a (data.toVote kind) := by
  obtain ⟨-, hname, hnames⟩ := checkLegacyVote_eq_none (v := data.toVote kind) hcheck
  unfold idReused at hid
  intro _
  have hnew : data.userId ≠ none → a.requesterId ≠ data.userId
      ∧ ∀ w ∈ a.votes, w.vote = .approve → w.userId ≠ data.userId := by
    intro hsome
    simpa [hsome] using hid
  refine ⟨⟨hname, ?_⟩, ?_⟩
  · intro hreq heq
    have heq : data.userId = a.requesterId := heq
    exact (hnew (heq ▸ hreq)).1 heq.symm
  · intro w hw
    obtain ⟨hw, hkind⟩ := List.mem_filter.mp hw
    refine ⟨hnames w hw, ?_⟩
    intro hsome heq
    have heq : w.userId = data.userId := heq
    exact (hnew (heq ▸ hsome)).2 w hw (by simpa using hkind) heq

/-- The invariant over the table. -/
def PeopleOk (db : DB) : Prop :=
  ∀ a ∈ db.approvals.rows, PeopleInv a

/-- **ONE REQUEST** keeps the invariant, unless it is a legacy approval under an id
already there. -/
theorem peopleOk_exec (db : DB) (r : Request) (hinv : PeopleOk db)
    (hguard : legacyIdReused db r = false) : PeopleOk (exec db r) := by
  have hlegacy : ∀ approvalId data kind a, legacyVote r.op = some (approvalId, data, kind) →
      db.approvals.get? approvalId = some a → checkLegacyVote r.now a data.userName = none →
      NewApprover a (data.toVote kind) := by
    intro approvalId data kind a hop hget hcheck
    obtain ⟨now, op⟩ := r
    cases op with
    | approveRequest id d =>
        injection hop with hop
        injection hop with hid hop
        injection hop with hd hk
        subst hid hd hk
        refine newApprover_of_not_idReused hcheck ?_
        simpa [legacyIdReused, hget, hcheck] using hguard
    | rejectRequest id d =>
        -- a reject vote is asked nothing
        injection hop with hop
        injection hop with _ hop
        injection hop with _ hk
        subst hk
        intro hkind
        cases hkind
    | _ => cases hop
  have hstep := exec_step db r (fun a v h => newApprover_of_newVoter h) hlegacy
  intro a' ha'
  rcases hstep.prev a' ha' with ⟨a, ha, hc⟩ | hnew
  · exact peopleInv_change (hinv a ha) hc
  · exact peopleInv_new hnew

/-- **FOUR EYES IN EVERY STATE**: over any sequence of requests in which no accepted
legacy approval comes under the requester's id or the id of an earlier approve
vote, every approved request has `required_approvers` approve votes of pairwise
different people, none of them the requester. -/
theorem four_eyes_run (reqs : List Request)
    (hguard : Along exec (fun db r => legacyIdReused db r = false) DB.empty reqs) :
    Always exec FourEyesOk DB.empty reqs := by
  have h0 : PeopleOk DB.empty := by
    intro a ha
    simp [DB.empty] at ha
  refine (always_of_step ?_ h0 hguard).mono ?_
  · intro db r hinv hg
    exact peopleOk_exec db r hinv hg
  · intro db hinv a ha
    exact (hinv a ha).fourEyes

/-- Alice (id 1) asks for a bulk wipe with two approvers, and Bob (id 2) approves
it through `/vote`. -/
def bobApproved : List Request :=
  [⟨0, .createApproval "a"
     { actionType := "bulk_wipe", requesterName := "alice", requesterId := some "1" }⟩,
   ⟨1, .voteOnApproval "a" "approve" none (some "2") (some "bob")⟩]

/-- Carol approves next, through the legacy endpoint and under an id of her own. -/
theorem four_eyes_run_carol :
    Along exec (fun db r => legacyIdReused db r = false) DB.empty
        (bobApproved ++ [⟨2, .approveRequest "a" { userName := "carol", userId := some "3" }⟩])
      ∧ Always exec FourEyesOk DB.empty
        (bobApproved ++ [⟨2, .approveRequest "a" { userName := "carol", userId := some "3" }⟩]) :=
  ⟨by decide, four_eyes_run _ (by decide)⟩

/-- Bob approves again, through the legacy endpoint as "robert" with his own id:
the request is approved by one person. -/
theorem four_eyes_fails_for_robert :
    ¬ Always exec FourEyesOk DB.empty
      (bobApproved ++ [⟨2, .approveRequest "a" { userName := "robert", userId := some "2" }⟩]) := by
  intro h
  exact absurd h.last (by decide)

end PureBoot.Approvals
