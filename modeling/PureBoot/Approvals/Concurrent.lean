/-
  PureBoot.Approvals.Concurrent — vote requests on one approval, INTERLEAVED.

  Each request is a transaction of five database steps: load the approval with its
  votes, insert the vote, reload the votes and recount, write the status, commit.
  Under read-committed isolation a step sees what is committed when it runs, plus
  the transaction's own writes; the checks are made on the votes LOADED and the
  outcome is decided on the votes RECOUNTED.  There is no unique constraint on the
  vote table, so nothing is checked at the commit.

  Main results:
    * `run_alone` — a transaction that nobody interrupts does what the sequential
      endpoint does;
    * `votesInv_exec` — one database step;
    * `concurrent_votes_run` — what a run in which no commit is raced leaves behind.
-/
import PureBoot.Approvals.Steps

namespace PureBoot.Approvals.Concurrent

open PureBoot.Lib

/-! ## §1. Transactions. -/

/-- A vote request, by one of the two paths; `/vote` requires an authenticated
user. -/
inductive VoteRequest where
  | service (userId userName : String) (vote : VoteKind) (comment : Option String)
      (auth : userId ≠ "")
  | legacy (data : LegacyVoteCreate) (vote : VoteKind)

namespace VoteRequest

/-- The row the request inserts. -/
def toVote : VoteRequest → ApprovalVote
  | service userId userName vote comment _ =>
      { userId := some userId, userName, vote, comment }
  | legacy data vote => data.toVote vote

/-- The checks of the path on the approval it loaded. -/
def check (now : Int) (a : Approval) : VoteRequest → Option String
  | service userId userName _ _ _ => checkVote now a (some userId) userName
  | legacy data _ => checkLegacyVote now a data.userName

end VoteRequest

/-- How far a transaction has come. -/
inductive Phase where
  | loaded
  | inserted
  /-- The votes the recount saw. -/
  | recounted (votes : List ApprovalVote)
  /-- The votes the recount saw, and the status and time written on account of them. -/
  | written (votes : List ApprovalVote) (update : Option (Status × Int))

/-- A vote request in progress, with the approval as it was loaded. -/
structure Tx where
  req : VoteRequest
  snapshot : Approval
  phase : Phase

/-- What is committed, and the transactions in progress. -/
structure World where
  committed : Approval
  txs : Nat → Option Tx

/-- One database step of transaction `t`. -/
inductive Label where
  | load (t : Nat) (req : VoteRequest)
  | insert (t : Nat) (now : Int)
  | recount (t : Nat)
  | write (t : Nat) (now : Int)
  | commit (t : Nat)
  | rollback (t : Nat)

/-- The world with nobody voting yet. -/
def World.start (a : Approval) : World where
  committed := a
  txs := fun _ => none

/-- Transaction `t` moves on. -/
def World.set (w : World) (t : Nat) (tx : Option Tx) : World :=
  { w with txs := Function.update w.txs t tx }

/-- The approval after a commit: the vote joins the committed ones, and the status
written overwrites the committed one. -/
def commitVote (a : Approval) (v : ApprovalVote) (update : Option (Status × Int)) : Approval :=
  let a₁ := { a with votes := a.votes ++ [v] }
  match update with
  | some (status, now) => a₁.close now status
  | none => a₁

/-- One database step.  A label that does not fit the transaction's phase changes
nothing. -/
def exec (w : World) : Label → World
  | .load t req =>
      match w.txs t with
      | none => w.set t (some ⟨req, w.committed, .loaded⟩)
      | some _ => w
  | .insert t now =>
      match w.txs t with
      | some ⟨req, snapshot, .loaded⟩ =>
          -- a refused vote raises, and the session rolls back
          if req.check now snapshot = none then w.set t (some ⟨req, snapshot, .inserted⟩)
          else w.set t none
      | _ => w
  | .recount t =>
      match w.txs t with
      | some ⟨req, snapshot, .inserted⟩ =>
          w.set t (some ⟨req, snapshot, .recounted (w.committed.votes ++ [req.toVote])⟩)
      | _ => w
  | .write t now =>
      match w.txs t with
      | some ⟨req, snapshot, .recounted votes⟩ =>
          let outcome := ({ snapshot with votes } : Approval).outcome
          w.set t (some ⟨req, snapshot, .written votes (outcome.map (·, now))⟩)
      | _ => w
  | .commit t =>
      match w.txs t with
      | some ⟨req, _, .written _ update⟩ =>
          { w.set t none with committed := commitVote w.committed req.toVote update }
      | _ => w
  | .rollback t => w.set t none

/-- **ALONE, A TRANSACTION IS THE ENDPOINT**: run without interruption it leaves the
approval as the sequential vote does. -/
theorem run_alone (w : World) (t : Nat) (req : VoteRequest) (now : Int) (h : w.txs t = none) :
    (run exec w [.load t req, .insert t now, .recount t, .write t now, .commit t]).committed
      = if req.check now w.committed = none then w.committed.addVote now req.toVote
        else w.committed := by
  by_cases hc : req.check now w.committed = none
  · rw [if_pos hc]
    simp only [run, exec, h, World.set, Function.update_self, hc, if_true]
    unfold commitVote Approval.addVote Approval.resolve
    cases ({ w.committed with votes := w.committed.votes ++ [req.toVote] } : Approval).outcome with
    | none => rfl
    | some status => rfl
  · rw [if_neg hc]
    simp [run, exec, h, World.set, Function.update_self, hc]

/-! ## §2. The property and the races. -/

/-- Nobody is voting. -/
def Quiet (w : World) : Prop :=
  ∀ t, w.txs t = none

/-- In a quiet world no user has two votes, and a pending approval has not reached
a threshold. -/
def VotesOk (w : World) : Prop :=
  Quiet w → w.committed.votes.Pairwise Distinct
    ∧ (w.committed.status = .pending →
        (w.committed.approveCount : Int) < w.committed.requiredApprovers
          ∧ (w.committed.rejectCount : Int) < w.committed.requiredApprovers)

/-- A vote of the same user was committed after the transaction loaded the votes it
checked. -/
def votedMeanwhile (w : World) (tx : Tx) : Bool :=
  (w.committed.votes.drop tx.snapshot.votes.length).any (fun v => ¬ Distinct v tx.req.toVote)

/-- The approvals or the rejections reach the requirement. -/
def meets (required : Int) (votes : List ApprovalVote) : Bool :=
  required ≤ countVotes .approve votes || required ≤ countVotes .reject votes

/-- The vote meets the requirement of a pending approval together with the votes now
committed, but not among the votes `seen` by the recount. -/
def thresholdMissed (w : World) (v : ApprovalVote) (seen : List ApprovalVote) : Bool :=
  w.committed.status = .pending && meets w.committed.requiredApprovers (w.committed.votes ++ [v])
    && !meets w.committed.requiredApprovers seen

/-- The steps that go wrong: a commit that was raced by another vote of the same
user or missed a threshold, and a legacy vote under an id the loaded votes have. -/
def raced (w : World) : Label → Bool
  | .insert t _ =>
      match w.txs t with
      | some ⟨.legacy data _, snapshot, .loaded⟩ =>
          data.userId ≠ none && snapshot.votes.any (fun v => v.userId = data.userId)
      | _ => false
  | .commit t =>
      match w.txs t with
      | some ⟨req, snapshot, .written seen update⟩ =>
          votedMeanwhile w ⟨req, snapshot, .written seen update⟩
            || thresholdMissed w req.toVote seen
      | _ => false
  | _ => false

/-! ## §3. The invariant. -/

/-- The vote of a transaction past its checks differs from the votes it loaded, and
the status it writes is the decision on the votes it recounted. -/
def PhaseInv (tx : Tx) : Phase → Prop
  | .loaded => True
  | .inserted => ∀ v ∈ tx.snapshot.votes, Distinct v tx.req.toVote
  | .recounted _ => ∀ v ∈ tx.snapshot.votes, Distinct v tx.req.toVote
  | .written seen update =>
      (∀ v ∈ tx.snapshot.votes, Distinct v tx.req.toVote)
        ∧ update.map Prod.fst = ({ tx.snapshot with votes := seen } : Approval).outcome

/-- What holds of a transaction in progress: it loaded the requirement and a prefix
of the votes. -/
structure TxInv (committed : Approval) (tx : Tx) : Prop where
  required : tx.snapshot.requiredApprovers = committed.requiredApprovers
  loaded : tx.snapshot.votes <+: committed.votes
  phase : PhaseInv tx tx.phase

structure VotesInv (w : World) : Prop where
  distinct : w.committed.votes.Pairwise Distinct
  unresolved : w.committed.status = .pending → w.committed.outcome = none
  txs : ∀ t tx, w.txs t = some tx → TxInv w.committed tx

theorem outcome_eq_none_iff (a : Approval) :
    a.outcome = none ↔ meets a.requiredApprovers a.votes = false := by
  unfold Approval.outcome meets Approval.approveCount Approval.rejectCount
  by_cases happ : a.requiredApprovers ≤ countVotes .approve a.votes
  · simp [happ]
  · by_cases hrej : a.requiredApprovers ≤ countVotes .reject a.votes
    · simp [happ, hrej]
    · simp [happ, hrej]

theorem outcome_mem {a : Approval} {status : Status} (h : a.outcome = some status) :
    status = .approved ∨ status = .rejected := by
  unfold Approval.outcome at h
  split at h
  next => injection h with h; exact .inl h.symm
  next =>
    split at h
    next => injection h with h; exact .inr h.symm
    next => cases h

theorem VotesInv.votesOk {w : World} (h : VotesInv w) : VotesOk w := by
  intro _
  refine ⟨h.distinct, fun hp => ?_⟩
  have hmeets := (outcome_eq_none_iff w.committed).mp (h.unresolved hp)
  unfold meets at hmeets
  unfold Approval.approveCount Approval.rejectCount
  simpa using hmeets

/-- A vote that passes the checks is not of a user who has a vote among those
loaded. -/
theorem distinct_of_check {now : Int} {snapshot : Approval} {req : VoteRequest}
    (hcheck : req.check now snapshot = none)
    (hid : ∀ data kind, req = .legacy data kind → data.userId ≠ none →
      ∀ v ∈ snapshot.votes, v.userId ≠ data.userId) :
    ∀ v ∈ snapshot.votes, Distinct v req.toVote := by
  intro v hv
  cases req with
  | service userId userName vote comment auth =>
      have htruthy : truthy (some userId) = true := by simpa [truthy] using auth
      obtain ⟨-, hname, -, hids⟩ := checkVote_eq_none
        (v := VoteRequest.toVote (.service userId userName vote comment auth)) htruthy hcheck
      exact ⟨hname.2 v hv, fun _ => hids v hv⟩
  | legacy data kind =>
      obtain ⟨-, hname⟩ := checkLegacyVote_eq_none (v := data.toVote kind) hcheck
      refine ⟨hname.2 v hv, fun hsome heq => ?_⟩
      have heq : v.userId = data.userId := heq
      exact hid data kind rfl (heq ▸ hsome) v hv heq

/-- A transaction moves on and nothing is committed. -/
theorem votesInv_set {w : World} (h : VotesInv w) (t : Nat) (tx : Option Tx)
    (htx : ∀ x, tx = some x → TxInv w.committed x) : VotesInv (w.set t tx) := by
  refine ⟨h.distinct, h.unresolved, ?_⟩
  intro t' x hx
  have hx : Function.update w.txs t tx t' = some x := hx
  by_cases ht : t' = t
  · subst ht
    rw [Function.update_self] at hx
    exact htx x hx
  · rw [Function.update_of_ne ht] at hx
    exact h.txs t' x hx

theorem commitVote_required (a : Approval) (v : ApprovalVote)
    (update : Option (Status × Int)) :
    (commitVote a v update).requiredApprovers = a.requiredApprovers := by
  unfold commitVote
  dsimp only
  split <;> rfl

theorem commitVote_votes (a : Approval) (v : ApprovalVote) (update : Option (Status × Int)) :
    (commitVote a v update).votes = a.votes ++ [v] := by
  unfold commitVote
  dsimp only
  split <;> rfl

/-- A commit that is not raced keeps the invariant. -/
theorem votesInv_commit {w : World} (h : VotesInv w) {t : Nat} {req : VoteRequest}
    {snapshot : Approval} {seen : List ApprovalVote} {update : Option (Status × Int)}
    (hget : w.txs t = some ⟨req, snapshot, .written seen update⟩)
    (hrace : raced w (.commit t) = false) :
    VotesInv { w.set t none with committed := commitVote w.committed req.toVote update } := by
  obtain ⟨hrequired, hprefix, hloaded, hdecided⟩ := h.txs t _ hget
  simp only [raced, hget, Bool.or_eq_false_iff] at hrace
  obtain ⟨hmean, hmiss⟩ := hrace
  -- the vote differs from the votes loaded and from those committed since
  have hall : ∀ v ∈ w.committed.votes, Distinct v req.toVote := by
    intro v hv
    obtain ⟨later, hlater⟩ := hprefix
    have hlater : snapshot.votes ++ later = w.committed.votes := hlater
    rw [← hlater] at hv
    rcases List.mem_append.mp hv with hv | hv
    · exact hloaded v hv
    · unfold votedMeanwhile at hmean
      dsimp only at hmean
      rw [← hlater, List.drop_left] at hmean
      simpa using List.any_eq_false.mp hmean v hv
  refine ⟨?_, ?_, ?_⟩
  · show (commitVote w.committed req.toVote update).votes.Pairwise Distinct
    rw [commitVote_votes, List.pairwise_append]
    refine ⟨h.distinct, List.pairwise_singleton _ _, ?_⟩
    intro v hv x hx
    rw [List.mem_singleton.mp hx]
    exact hall v hv
  · show (commitVote w.committed req.toVote update).status = .pending →
      (commitVote w.committed req.toVote update).outcome = none
    intro hp
    cases update with
    | some u =>
        -- a written status is a decision
        have hu : u.1 = .pending := hp
        have hout : some u.1 = ({ snapshot with votes := seen } : Approval).outcome := hdecided
        rcases outcome_mem hout.symm with h' | h' <;> rw [h'] at hu <;> cases hu
    | none =>
        -- nothing was written, so the recount saw no threshold and none was missed
        have hout : none = ({ snapshot with votes := seen } : Approval).outcome := hdecided
        have hseen := (outcome_eq_none_iff _).mp hout.symm
        have hp : w.committed.status = .pending := hp
        have hrequired : snapshot.requiredApprovers = w.committed.requiredApprovers := hrequired
        dsimp only at hseen
        rw [hrequired] at hseen
        unfold thresholdMissed at hmiss
        rw [outcome_eq_none_iff, commitVote_required, commitVote_votes]
        simpa [hp, hseen] using hmiss
  · intro t' x hx
    have hx : Function.update w.txs t none t' = some x := hx
    by_cases ht : t' = t
    · subst ht
      rw [Function.update_self] at hx
      cases hx
    · rw [Function.update_of_ne ht] at hx
      obtain ⟨hreq, hpre, hphase⟩ := h.txs t' x hx
      refine ⟨?_, ?_, hphase⟩
      · show x.snapshot.requiredApprovers
          = (commitVote w.committed req.toVote update).requiredApprovers
        rw [commitVote_required]
        exact hreq
      · show x.snapshot.votes <+: (commitVote w.committed req.toVote update).votes
        rw [commitVote_votes]
        exact hpre.trans (List.prefix_append _ _)

/-- **ONE DATABASE STEP** that is not raced keeps the invariant. -/
theorem votesInv_exec (w : World) (l : Label) (h : VotesInv w) (hrace : raced w l = false) :
    VotesInv (exec w l) := by
  cases l with
  | load t req =>
      simp only [exec]
      split
      next =>
        refine votesInv_set h t _ ?_
        intro x hx
        injection hx with hx
        subst hx
        exact ⟨rfl, List.prefix_rfl, trivial⟩
      next => exact h
  | insert t now =>
      simp only [exec]
      split
      next req snapshot hget =>
        split
        next hcheck =>
          refine votesInv_set h t _ ?_
          intro x hx
          injection hx with hx
          subst hx
          obtain ⟨hreq, hpre, -⟩ := h.txs t _ hget
          refine ⟨hreq, hpre, distinct_of_check hcheck ?_⟩
          -- the legacy path compares names only: that the id is new is what `raced` excludes
          intro data kind hlegacy hsome v hv
          subst hlegacy
          simp only [raced, hget, Bool.and_eq_false_iff] at hrace
          rcases hrace with hrace | hrace
          · simp [hsome] at hrace
          · simpa using List.any_eq_false.mp hrace v hv
        next => exact votesInv_set h t none (fun x hx => by cases hx)
      next => exact h
  | recount t =>
      simp only [exec]
      split
      next req snapshot hget =>
        refine votesInv_set h t _ ?_
        intro x hx
        injection hx with hx
        subst hx
        obtain ⟨hreq, hpre, hloaded⟩ := h.txs t _ hget
        exact ⟨hreq, hpre, hloaded⟩
      next => exact h
  | write t now =>
      simp only [exec]
      split
      next req snapshot votes hget =>
        refine votesInv_set h t _ ?_
        intro x hx
        injection hx with hx
        subst hx
        obtain ⟨hreq, hpre, hloaded⟩ := h.txs t _ hget
        refine ⟨hreq, hpre, hloaded, ?_⟩
        -- the status written is decided on the votes of the recount, whatever was committed since
        show (Option.map (·, now) ({ snapshot with votes } : Approval).outcome).map Prod.fst
          = ({ snapshot with votes } : Approval).outcome
        cases ({ snapshot with votes } : Approval).outcome with
        | none => rfl
        | some status => rfl
      next => exact h
  | commit t =>
      simp only [exec]
      split
      next req snapshot seen update hget => exact votesInv_commit h hget hrace
      next => exact h
  | rollback t => exact votesInv_set h t none (fun x hx => by cases hx)

/-! ## §4. Runs. -/

/-- **CONCURRENT VOTES**: on a new approval that requires an approver, over any
interleaving in which no step is raced, whenever nobody is voting no user has two
votes, and a pending approval has fewer approvals and fewer rejections than it
requires. -/
theorem concurrent_votes_run (a : Approval) (hnew : IsNew a) (hreq : 1 ≤ a.requiredApprovers)
    (labels : List Label)
    (hrace : Along exec (fun w l => raced w l = false) (World.start a) labels) :
    Always exec VotesOk (World.start a) labels := by
  have hcount : ∀ kind, countVotes kind a.votes = 0 := by
    intro kind
    rw [hnew.votes]
    rfl
  have h0 : VotesInv (World.start a) := by
    refine ⟨?_, fun _ => ?_, ?_⟩
    · show a.votes.Pairwise Distinct
      rw [hnew.votes]
      exact .nil
    · show a.outcome = none
      rw [outcome_eq_none_iff]
      unfold meets
      rw [hcount, hcount]
      have hnot : ¬ a.requiredApprovers ≤ ((0 : Nat) : Int) := by omega
      rw [decide_eq_false hnot]
      rfl
    · intro t tx htx
      cases htx
  refine (always_of_step ?_ h0 hrace).mono (fun _ h => h.votesOk)
  intro w l hinv hg
  exact votesInv_exec w l hinv hg

/-- A new request of Alice's that requires two approvers. -/
def fresh : Approval :=
  { id := "a", actionType := "bulk_wipe", operationType := "bulk_wipe", requesterId := none,
    requesterName := "alice", expiresAt := 86400000000, createdAt := 0 }

theorem bob_auth : "2" ≠ "" := by decide

theorem carol_auth : "3" ≠ "" := by decide

/-- Bob's and Carol's approvals. -/
def bob : VoteRequest := .service "2" "bob" .approve none bob_auth

def carol : VoteRequest := .service "3" "carol" .approve none carol_auth

/-- Bob and Carol load together, but Carol recounts after Bob has committed. -/
theorem concurrent_votes_run_in_turn :
    Always exec VotesOk (World.start fresh)
      [.load 0 bob, .load 1 carol, .insert 0 1, .insert 1 1, .recount 0, .write 0 1, .commit 0,
       .recount 1, .write 1 2, .commit 1] :=
  concurrent_votes_run fresh ⟨rfl, rfl, rfl⟩ (by decide) _ (by decide)

/-- Both recount before the other commits: each sees one approval of two, and the
request stays pending with two approvals. -/
theorem concurrent_votes_missed :
    ¬ Always exec VotesOk (World.start fresh)
      [.load 0 bob, .load 1 carol, .insert 0 1, .insert 1 1, .recount 0, .recount 1, .write 0 1,
       .write 1 1, .commit 0, .commit 1] := by
  intro h
  have hquiet : Quiet (run exec (World.start fresh)
      [.load 0 bob, .load 1 carol, .insert 0 1, .insert 1 1, .recount 0, .recount 1, .write 0 1,
       .write 1 1, .commit 0, .commit 1]) := by
    intro t
    match t with
    | 0 => rfl
    | 1 => rfl
    | t + 2 => rfl
  exact absurd ((h.last hquiet).2 (by decide)) (by decide)

end PureBoot.Approvals.Concurrent
