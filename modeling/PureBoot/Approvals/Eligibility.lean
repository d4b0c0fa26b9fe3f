/-
  PureBoot.Approvals.Eligibility — WHO MAY VOTE, asked in three ways.

  Embeds `check_user_can_approve` and `get_pending_approvals_for_user` of
  `services/approvals.py` for any user id, null included; `cast_vote` is that of
  `Approvals.Service`.  The first two compare ids and nothing else.  The third compares names
  too, and does not take a null id for the requester's.

  Main results:
    * `pendingApprovals_perm` — the list has the approvals that the check allows;
    * `castVote_isOk_iff` — when a vote is accepted;
    * `viewsAgree_iff` — the states in which the three agree.
-/
import PureBoot.Approvals.Service

namespace PureBoot.Approvals

open PureBoot.Lib

/-! ## §1. The three views. -/

/-- The checks of `check_user_can_approve` on the approval it loaded: the reason why not. -/
def denial (now : Int) (a : Approval) (userId : Option String) : Option String :=
  if a.status ≠ .pending then
    some ("Approval is not pending (status: " ++ a.status.name ++ ")")
  else if a.isExpired now then some "Approval has expired"
  else if a.requesterId = userId then some "You cannot vote on your own request"
  else if a.votes.any (fun v => v.userId = userId) then
    some "You have already voted on this request"
  else none

/-- `check_user_can_approve`. -/
def checkUserCanApprove (now : Int) (db : DB) (approvalId : String) (userId : Option String) :
    Bool × String :=
  match db.approvals.get? approvalId with
  | none => (false, "Approval not found")
  | some a =>
      match denial now a userId with
      | some reason => (false, reason)
      | none => (true, "User can vote")

/-- `get_pending_approvals_for_user`, newest first, for an id that may be null. -/
def pendingApprovals (now : Int) (db : DB) (userId : Option String) : List Approval :=
  (db.approvals.rows.filter (fun a => a.status = .pending)).mergeSort
      (fun a b => b.createdAt ≤ a.createdAt)
    |>.filter (fun a => a.requesterId ≠ userId ∧ a.isExpired now = false
        ∧ a.votes.all (fun v => v.userId ≠ userId))

/-- A vote is accepted: `cast_vote` does not raise. -/
def Accepted (now : Int) (db : DB) (approvalId : String) (userId : Option String)
    (userName vote : String) (comment : Option String) (isEscalationVote : Bool) : Prop :=
  (castVote now db approvalId userId userName vote comment isEscalationVote).isOk = true

/-! ## §2. What each of them asks. -/

/-- Votes are still taken. -/
def IsOpen (now : Int) (a : Approval) : Prop := a.status = .pending ∧ a.isExpired now = false

theorem ite_some_eq_none_iff {α : Type} {c : Prop} [Decidable c] {a : α} {o : Option α} :
    (if c then some a else o) = none ↔ ¬ c ∧ o = none := by
  by_cases h : c
  · simp [h]
  · simp [h]

theorem denial_eq_none_iff {now : Int} {a : Approval} {userId : Option String} :
    denial now a userId = none ↔
      IsOpen now a ∧ a.requesterId ≠ userId ∧ ∀ v ∈ a.votes, v.userId ≠ userId := by
  unfold denial IsOpen
  simp only [ite_some_eq_none_iff, not_not, Bool.not_eq_true, List.any_eq_false,
    decide_eq_true_eq, and_true, and_assoc, Ne]

/-- **WHEN THE CHECK ALLOWS A VOTE.** -/
theorem checkUserCanApprove_iff {now : Int} {db : DB} {approvalId : String}
    {userId : Option String} :
    (checkUserCanApprove now db approvalId userId).1 = true ↔
      ∃ a, db.approvals.get? approvalId = some a ∧ denial now a userId = none := by
  unfold checkUserCanApprove
  cases db.approvals.get? approvalId with
  | none => simp
  | some a =>
      simp only [Option.some.injEq, exists_eq_left']
      cases denial now a userId <;> simp

theorem checkVote_eq_none_iff {now : Int} {a : Approval} {userId : Option String}
    {userName : String} :
    checkVote now a userId userName = none ↔
      IsOpen now a ∧ ¬ (truthy userId = true ∧ a.requesterId = userId)
        ∧ userName ≠ a.requesterName
        ∧ ∀ v ∈ a.votes, v.userId ≠ userId ∧ v.userName ≠ userName := by
  unfold checkVote IsOpen
  simp only [ite_some_eq_none_iff, not_not, Bool.not_eq_true, List.any_eq_false,
    Bool.or_eq_true, decide_eq_true_eq, and_true, and_assoc, Ne, not_or]

/-- **WHEN A VOTE IS ACCEPTED.** -/
theorem accepted_iff {now : Int} {db : DB} {approvalId userName vote : String}
    {userId comment : Option String} {isEscalationVote : Bool}
    (hvote : vote = "approve" ∨ vote = "reject") :
    Accepted now db approvalId userId userName vote comment isEscalationVote ↔
      ∃ a, db.approvals.get? approvalId = some a ∧ checkVote now a userId userName = none := by
  obtain ⟨kind, hkind⟩ : ∃ kind, VoteKind.ofText vote = some kind := by
    rcases hvote with rfl | rfl
    · exact ⟨.approve, by decide⟩
    · exact ⟨.reject, by decide⟩
  unfold Accepted castVote
  rw [hkind]
  dsimp only
  cases hget : db.approvals.get? approvalId with
  | none => simp
  | some a =>
      simp only [Option.some.injEq, exists_eq_left']
      cases checkVote now a userId userName with
      | none => simp
      | some reason => simp

/-! ## §3. The list and the check agree. -/

theorem get?_of_mem {db : DB} {a : Approval} (ha : a ∈ db.approvals.rows) :
    db.approvals.get? a.id = some a :=
  Table.get?_eq_some_iff.mpr ⟨ha, rfl⟩

/-- **THE LIST** has the approvals that the check allows, each once. -/
theorem pendingApprovals_perm (now : Int) (db : DB) (userId : Option String) :
    (pendingApprovals now db userId).Perm
      (db.approvals.rows.filter (fun a => (checkUserCanApprove now db a.id userId).1)) := by
  unfold pendingApprovals
  refine ((List.mergeSort_perm _ _).filter _).trans ?_
  rw [List.filter_filter]
  refine List.Perm.of_eq (List.filter_congr (fun a ha => ?_))
  rw [Bool.eq_iff_iff, checkUserCanApprove_iff, get?_of_mem ha]
  simp only [Option.some.injEq, exists_eq_left', denial_eq_none_iff, IsOpen, Bool.and_eq_true,
    decide_eq_true_eq, List.all_eq_true]
  constructor
  · rintro ⟨⟨hreq, hopen, hvotes⟩, hpending⟩
    exact ⟨⟨hpending, hopen⟩, hreq, hvotes⟩
  · rintro ⟨⟨hpending, hopen⟩, hreq, hvotes⟩
    exact ⟨⟨hreq, hopen, hvotes⟩, hpending⟩

/-! ## §4. The check and the vote. -/

/-- The names say of the requester and of the voters what the ids say. -/
def NamesAgree (a : Approval) (userId : Option String) (userName : String) : Prop :=
  if a.requesterId = userId then
    truthy userId = true ∨ userName = a.requesterName ∨ ∃ v ∈ a.votes, v.userName = userName
  else userName ≠ a.requesterName ∧ ∀ v ∈ a.votes, v.userName ≠ userName

/-- The check and the vote agree on an approval exactly if it is closed, or a vote has the id,
or the names agree with the ids. -/
theorem checkVote_iff_denial {now : Int} {a : Approval} {userId : Option String}
    {userName : String} :
    (checkVote now a userId userName = none ↔ denial now a userId = none) ↔
      (IsOpen now a → (∀ v ∈ a.votes, v.userId ≠ userId) → NamesAgree a userId userName) := by
  rw [checkVote_eq_none_iff, denial_eq_none_iff]
  unfold NamesAgree
  constructor
  · intro h hopen hids
    split
    next hreq =>
      -- the check denies, and so the vote is refused
      by_contra hno
      rw [not_or, not_or, not_exists] at hno
      obtain ⟨hnull, hname, hnames⟩ := hno
      refine (h.mp ⟨hopen, fun hboth => hnull hboth.1, hname, fun v hv => ⟨hids v hv, ?_⟩⟩).2.1 hreq
      exact fun heq => hnames v ⟨hv, heq⟩
    next hreq =>
      obtain ⟨-, -, hname, hvotes⟩ := h.mpr ⟨hopen, hreq, hids⟩
      exact ⟨hname, fun v hv => (hvotes v hv).2⟩
  · intro h
    constructor
    · rintro ⟨hopen, hown, hname, hvotes⟩
      have hids : ∀ v ∈ a.votes, v.userId ≠ userId := fun v hv => (hvotes v hv).1
      refine ⟨hopen, fun hreq => ?_, hids⟩
      have hagree := h hopen hids
      rw [if_pos hreq] at hagree
      rcases hagree with hid | heq | ⟨v, hv, heq⟩
      · exact hown ⟨hid, hreq⟩
      · exact hname heq
      · exact (hvotes v hv).2 heq
    · rintro ⟨hopen, hreq, hids⟩
      have hagree := h hopen hids
      rw [if_neg hreq] at hagree
      exact ⟨hopen, fun hboth => hreq hboth.2, hagree.1, fun v hv => ⟨hids v hv, hagree.2 v hv⟩⟩

/-- **THE THREE VIEWS AGREE**: the list has exactly the pending approvals that the check allows,
and a vote on any approval is accepted exactly if the check allows it. -/
def ViewsAgree (now : Int) (db : DB) (userId : Option String) (userName : String) : Prop :=
  (pendingApprovals now db userId).Perm (db.approvals.rows.filter (fun a =>
      a.status = .pending ∧ (checkUserCanApprove now db a.id userId).1 = true))
  ∧ ∀ approvalId vote comment isEscalationVote, vote = "approve" ∨ vote = "reject" →
      (Accepted now db approvalId userId userName vote comment isEscalationVote ↔
        (checkUserCanApprove now db approvalId userId).1 = true)

/-- **THE VIEWS AGREE** exactly if on every open approval on which no vote has the user's id the
names agree with the ids. -/
theorem viewsAgree_iff (now : Int) (db : DB) (userId : Option String) (userName : String) :
    ViewsAgree now db userId userName ↔
      ∀ a ∈ db.approvals.rows, IsOpen now a → (∀ v ∈ a.votes, v.userId ≠ userId) →
        NamesAgree a userId userName := by
  constructor
  · rintro ⟨-, hvotes⟩ a ha
    have h := hvotes a.id "approve" none false (.inl rfl)
    rw [accepted_iff (.inl rfl), checkUserCanApprove_iff, get?_of_mem ha] at h
    simp only [Option.some.injEq, exists_eq_left'] at h
    exact checkVote_iff_denial.mp h
  · intro h
    refine ⟨(pendingApprovals_perm now db userId).trans ?_, fun approvalId vote comment esc hvote => ?_⟩
    · refine List.Perm.of_eq (List.filter_congr (fun a ha => ?_))
      rw [Bool.eq_iff_iff, decide_eq_true_eq]
      refine ⟨fun hcheck => ⟨?_, hcheck⟩, And.right⟩
      obtain ⟨a', hget, hnone⟩ := checkUserCanApprove_iff.mp hcheck
      rw [get?_of_mem ha] at hget
      obtain rfl := Option.some.inj hget
      exact (denial_eq_none_iff.mp hnone).1.1
    · rw [accepted_iff hvote, checkUserCanApprove_iff]
      refine exists_congr (fun a => and_congr_right (fun hget => ?_))
      exact checkVote_iff_denial.mpr (h a (Table.get?_eq_some_iff.mp hget).1)

/-- A request of one Alice. -/
def aliceRequest : Approval where
  id := "a1"
  actionType := "node.wipe"
  operationType := "node.wipe"
  requesterId := some "u1"
  requesterName := "alice"
  expiresAt := 1000
  createdAt := 0

def aliceDB : DB where
  approvals := ⟨[aliceRequest], by decide⟩
  rules := Table.empty

/-- Another Alice is told that she can vote, and her vote is refused. -/
theorem aliceDB_not_agree : ¬ ViewsAgree 10 aliceDB (some "u2") "alice" := by
  rintro ⟨-, hvotes⟩
  have h := (hvotes "a1" "approve" none false (.inl rfl)).mpr (by decide +kernel)
  have hrefused : ¬ Accepted 10 aliceDB "a1" (some "u2") "alice" "approve" none false := by
    unfold Accepted
    decide +kernel
  exact hrefused h

/-- Without an id nobody may vote on a request without one; but the vote is accepted. -/
example :
    (checkUserCanApprove 10 { aliceDB with
        approvals := ⟨[{ aliceRequest with requesterId := none }], by decide⟩ } "a1" none).1 = false
      ∧ (castVote 10 { aliceDB with
        approvals := ⟨[{ aliceRequest with requesterId := none }], by decide⟩ } "a1" none "bob"
          "approve" none false).isOk = true := by
  decide +kernel

end PureBoot.Approvals
