/-
  PureBoot.Approvals.Steps — what one request can do to an approval.

  Thirteen kinds of request reach the `approvals` table.  `Effect` says for each
  row what a request did to it and which checks it passed before; everything else
  is derived from that.  For the OUTCOME of an approval only three ways matter
  (`Change`): it keeps everything that decides its outcome, it is closed without a
  decision, or it takes one more vote.  The parameter `Q` says what is known of the
  voter when the vote is taken; the two vote paths establish different facts
  (`NewVoter`, `NewName`).

  Main results:
    * `castVote_ok`, `castVoteLegacy_ok` — what a vote that is not refused did;
    * `exec_effect` — every request has one `Effect` per approval, and any other
      row of the result is a new approval;
    * `exec_step` — the same for `Change`.
-/
import PureBoot.Approvals.Api

namespace PureBoot.Approvals

open PureBoot.Lib

/-! ## §1. Voters. -/

/-- Votes of different people: other names, and no non-null id in common. -/
def Distinct (v w : ApprovalVote) : Prop :=
  v.userName ≠ w.userName ∧ (v.userId ≠ none → v.userId ≠ w.userId)

instance (v w : ApprovalVote) : Decidable (Distinct v w) :=
  inferInstanceAs (Decidable (_ ∧ (_ → _)))

/-- Nobody of this name requested the approval or voted on it. -/
def NewName (a : Approval) (v : ApprovalVote) : Prop :=
  v.userName ≠ a.requesterName ∧ ∀ w ∈ a.votes, w.userName ≠ v.userName

/-- Nobody of this name or id requested the approval or voted on it. -/
def NewVoter (a : Approval) (v : ApprovalVote) : Prop :=
  NewName a v ∧ a.requesterId ≠ v.userId ∧ ∀ w ∈ a.votes, w.userId ≠ v.userId

/-- What the service's checks establish, for a user with an id. -/
theorem checkVote_eq_none {now : Int} {a : Approval} {v : ApprovalVote}
    (hid : truthy v.userId = true) (h : checkVote now a v.userId v.userName = none) :
    a.status = .pending ∧ NewVoter a v := by
  unfold checkVote at h
  split at h
  next => cases h
  next hstatus =>
    split at h
    next => cases h
    next =>
      split at h
      next => cases h
      next hreq =>
        split at h
        next => cases h
        next hname =>
          split at h
          next => cases h
          next hvoted =>
            have hvoted : ∀ w ∈ a.votes, w.userId ≠ v.userId ∧ w.userName ≠ v.userName := by
              simpa using hvoted
            refine ⟨not_not.mp hstatus, ⟨hname, fun w hw => (hvoted w hw).2⟩, ?_,
              fun w hw => (hvoted w hw).1⟩
            intro heq
            exact hreq ⟨hid, heq⟩

/-- What the legacy checks establish. -/
theorem checkLegacyVote_eq_none {now : Int} {a : Approval} {v : ApprovalVote}
    (h : checkLegacyVote now a v.userName = none) : a.status = .pending ∧ NewName a v := by
  unfold checkLegacyVote at h
  split at h
  next => cases h
  next hstatus =>
    split at h
    next => cases h
    next hvoted =>
      split at h
      next => cases h
      next hname =>
        have hvoted : ∀ w ∈ a.votes, w.userName ≠ v.userName := by simpa using hvoted
        exact ⟨not_not.mp hstatus, hname, hvoted⟩

/-! ## §2. Changes of one approval. -/

/-- Everything that decides the outcome of an approval. -/
structure SameOutcome (a a' : Approval) : Prop where
  id : a'.id = a.id
  requesterId : a'.requesterId = a.requesterId
  requesterName : a'.requesterName = a.requesterName
  requiredApprovers : a'.requiredApprovers = a.requiredApprovers
  status : a'.status = a.status
  resolvedAt : a'.resolvedAt = a.resolvedAt
  votes : a'.votes = a.votes

theorem SameOutcome.refl (a : Approval) : SameOutcome a a :=
  ⟨rfl, rfl, rfl, rfl, rfl, rfl, rfl⟩

/-- **WHAT A REQUEST CAN DO TO AN APPROVAL**, with voters known to satisfy `Q`. -/
inductive Change (Q : Approval → ApprovalVote → Prop) (now : Int) (a : Approval) :
    Approval → Prop where
  /-- Nothing that decides the outcome (an escalation, a cleared rule). -/
  | kept (a' : Approval) : SameOutcome a a' → Change Q now a a'
  /-- Closed without a decision. -/
  | closed (status : Status) : a.status = .pending → status = .expired ∨ status = .cancelled →
      Change Q now a (a.close now status)
  /-- One more vote, and the threshold check. -/
  | voted (v : ApprovalVote) : a.status = .pending → Q a v → Change Q now a (a.addVote now v)

theorem resolve_same (now : Int) (a : Approval) :
    (a.resolve now).id = a.id ∧ (a.resolve now).requesterId = a.requesterId
      ∧ (a.resolve now).requesterName = a.requesterName
      ∧ (a.resolve now).requiredApprovers = a.requiredApprovers
      ∧ (a.resolve now).votes = a.votes := by
  unfold Approval.resolve
  split <;> exact ⟨rfl, rfl, rfl, rfl, rfl⟩

/-- The approval, the body and the kind of a legacy vote. -/
def legacyVote : Op → Option (String × LegacyVoteCreate × VoteKind)
  | .approveRequest approvalId data => some (approvalId, data, .approve)
  | .rejectRequest approvalId data => some (approvalId, data, .reject)
  | _ => none

/-- The request runs the expiry sweep and returns: `my_pending` without a user is
refused after the sweep, which rolls it back. -/
def sweeps : Op → Bool
  | .getApprovalStats => true
  | .listApprovals query => !query.myPending || truthy query.userId
  | _ => false

/-- **WHAT A REQUEST DID TO AN APPROVAL**, and what it had checked. -/
inductive Effect (db : DB) (r : Request) (a : Approval) : Approval → Prop where
  | same : Effect db r a a
  /-- One more vote, by one of the two paths. -/
  | voted (v : ApprovalVote) : a.status = .pending →
      (NewVoter a v ∨ ∃ approvalId data kind, legacyVote r.op = some (approvalId, data, kind)
        ∧ db.approvals.get? approvalId = some a
        ∧ checkLegacyVote r.now a data.userName = none ∧ v = data.toVote kind) →
      Effect db r a (a.addVote r.now v)
  | cancelled : a.status = .pending → Effect db r a (a.close r.now .cancelled)
  /-- Past its deadline when a list or stats request came. -/
  | swept : sweeps r.op = true → a.status = .pending → a.isExpired r.now = true →
      Effect db r a (a.close r.now .expired)
  /-- Past its deadline when the job came, with escalations left. -/
  | escalated (a' : Approval) : a.status = .pending → a.escalationCount < maxEscalations →
      escalateApproval r.now db.rules a = .ok a' → Effect db r a a'
  /-- Past its deadline when the job came, with no escalations left. -/
  | timedOut : a.status = .pending → maxEscalations ≤ a.escalationCount →
      Effect db r a (a.close r.now .expired)
  /-- Its rule was deleted. -/
  | ruleCleared (ruleId : String) : Effect db r a (clearRule ruleId a)

/-- A freshly created approval: pending, without votes. -/
structure IsNew (a : Approval) : Prop where
  status : a.status = .pending
  resolvedAt : a.resolvedAt = none
  votes : a.votes = []

/-- **ONE STEP OF THE TABLE**: every approval makes one change, and every approval
of the result made one or is new. -/
structure Step (Q : Approval → ApprovalVote → Prop) (now : Int) (db db' : DB) : Prop where
  next : ∀ a ∈ db.approvals.rows, ∃ a' ∈ db'.approvals.rows, Change Q now a a'
  prev : ∀ a' ∈ db'.approvals.rows, (∃ a ∈ db.approvals.rows, Change Q now a a') ∨ IsNew a'

/-! ## §3. What a vote did. -/

/-- **A SERVICE VOTE** that is not refused: the approval was pending, and neither
the name nor the id of the voter had been seen. -/
theorem castVote_ok {now : Int} {db db' : DB} {approvalId userName vote : String}
    {userId comment : Option String} {esc : Bool} {ans : ApprovalVote × Bool}
    (hid : truthy userId = true)
    (h : castVote now db approvalId userId userName vote comment esc = .ok (ans, db')) :
    ∃ a ∈ db.approvals.rows, a.status = .pending ∧ NewVoter a ans.1
      ∧ db' = db.save (a.addVote now ans.1) := by
  unfold castVote at h
  split at h
  next => cases h
  next kind _ =>
    split at h
    next => cases h
    next a hget =>
      split at h
      next => cases h
      next hcheck =>
        injection h with h
        injection h with hans hdb
        subst hans hdb
        obtain ⟨hp, hnew⟩ := checkVote_eq_none
          (v := ⟨userId, userName, kind, comment, esc⟩) hid hcheck
        exact ⟨a, (Table.get?_eq_some_iff.mp hget).1, hp, hnew, rfl⟩

/-- **A LEGACY VOTE** that is not refused passed the checks of `_cast_vote`; nothing
is known about the id. -/
theorem castVoteLegacy_ok {now : Int} {db db' : DB} {approvalId : String}
    {data : LegacyVoteCreate} {kind : VoteKind} {m : String}
    (h : castVoteLegacy now db approvalId data kind = .ok (m, db')) :
    ∃ a, db.approvals.get? approvalId = some a
      ∧ checkLegacyVote now a data.userName = none
      ∧ db' = db.save (a.addVote now (data.toVote kind)) := by
  unfold castVoteLegacy at h
  split at h
  next => cases h
  next a hget =>
    split at h
    next => cases h
    next hcheck =>
      injection h with h
      injection h with _ hdb
      exact ⟨a, hget, hcheck, hdb.symm⟩

/-! ## §4. What any request did. -/

theorem escalateApproval_ok {now : Int} {rules : Table ApprovalRule.id} {a a' : Approval}
    (h : escalateApproval now rules a = .ok a') :
    SameOutcome a a' ∧ a'.escalationCount = a.escalationCount + 1 := by
  unfold escalateApproval at h
  dsimp only at h
  split at h
  next =>
    obtain ⟨t, -, h⟩ := bind_eq_ok.mp h
    injection h with h
    subst h
    exact ⟨⟨rfl, rfl, rfl, rfl, rfl, rfl, rfl⟩, rfl⟩
  next =>
    injection h with h
    subst h
    exact ⟨⟨rfl, rfl, rfl, rfl, rfl, rfl, rfl⟩, rfl⟩

section Handlers

variable {now : Int} {op : Op} {db db' : DB}

/-- The table `db'` is `db` after the request `op`, row by row. -/
abbrev Affects (now : Int) (op : Op) (db db' : DB) : Prop :=
  db.approvals.Becomes (Effect db ⟨now, op⟩) IsNew db'.approvals

theorem affects_refl (h : db'.approvals = db.approvals) : Affects now op db db' := by
  unfold Affects
  rw [h]
  exact .refl (fun _ => .same) _

theorem affects_insert {a : Approval} {approvals : Table Approval.id} (hnew : IsNew a)
    (h : db.approvals.insert? a = some approvals) :
    Affects now op db { db with approvals } :=
  .insert? (fun _ => .same) hnew h

theorem createApproval_affects {uuid : String} {data : ApprovalCreate} {ans : Approval}
    (h : createApproval now db uuid data = .ok (ans, db')) : Affects now op db db' := by
  unfold createApproval at h
  obtain ⟨-, h⟩ := ite_error_eq_ok.mp h
  obtain ⟨-, h⟩ := ite_error_eq_ok.mp h
  obtain ⟨t, -, h⟩ := bind_eq_ok.mp h
  dsimp only at h
  split at h
  next approvals hins =>
    obtain ⟨-, rfl⟩ := ok_pair_inj h
    exact affects_insert ⟨rfl, rfl, rfl⟩ hins
  next => cases h

theorem createApprovalRequest_ok {uuid : String} {rule : ApprovalRule}
    {operationType requesterId requesterName : String} {a : Approval}
    (h : createApprovalRequest now db uuid rule operationType requesterId requesterName
      = .ok (a, db')) :
    IsNew a ∧ a.id = uuid ∧ ∃ approvals, db.approvals.insert? a = some approvals
      ∧ db' = { db with approvals } := by
  unfold createApprovalRequest at h
  obtain ⟨t, -, h⟩ := bind_eq_ok.mp h
  dsimp only at h
  split at h
  next approvals hins =>
    injection h with h
    injection h with ha hdb
    subst ha
    exact ⟨⟨rfl, rfl, rfl⟩, rfl, approvals, hins, hdb.symm⟩
  next => cases h

/-- An exception translated on its way out is still an exception. -/
theorem mapError_eq_ok {ε ε' α : Type} {f : ε → ε'} {r : Except ε α} {x : α}
    (h : r.mapError f = .ok x) : r = .ok x := by
  cases r with
  | error e => cases h
  | ok y =>
      injection h with h
      rw [h]

/-- A vote is flushed. -/
theorem affects_vote {a : Approval} {v : ApprovalVote} (ha : a ∈ db.approvals.rows)
    (h : Effect db ⟨now, op⟩ a (a.addVote now v)) :
    Affects now op db (db.save (a.addVote now v)) :=
  .put (fun _ => .same) ha (resolve_same now _).1 h

theorem voteOnApproval_affects {approvalId vote : String}
    {comment userId userName : Option String} {ans : ApprovalVote × Bool}
    (h : voteOnApproval now db approvalId vote comment userId userName = .ok (ans, db')) :
    Affects now op db db' := by
  unfold voteOnApproval at h
  split at h
  next => cases h
  next =>
    split at h
    next => cases h
    next name =>
      split at h
      next => cases h
      next hauth =>
        have hid : truthy userId = true := by
          cases htr : truthy userId with
          | true => rfl
          | false => exact absurd (.inl htr) hauth
        obtain ⟨a, ha, hp, hnew, rfl⟩ := castVote_ok hid (mapError_eq_ok h)
        exact affects_vote ha (.voted ans.1 hp (.inl hnew))

theorem castVoteLegacy_affects {approvalId : String} {data : LegacyVoteCreate} {kind : VoteKind}
    {m : String} (hop : legacyVote op = some (approvalId, data, kind))
    (h : castVoteLegacy now db approvalId data kind = .ok (m, db')) :
    Affects now op db db' := by
  obtain ⟨a, hget, hcheck, rfl⟩ := castVoteLegacy_ok h
  have hp := (checkLegacyVote_eq_none (v := data.toVote kind) hcheck).1
  refine affects_vote (Table.get?_eq_some_iff.mp hget).1 (.voted _ hp (.inr ?_))
  exact ⟨approvalId, data, kind, hop, hget, hcheck, rfl⟩

/-- A cancellation is flushed. -/
theorem affects_cancel {a : Approval} {approvalId : String}
    (hget : db.approvals.get? approvalId = some a) (hp : a.status = .pending) :
    Affects now op db (db.save (a.close now .cancelled)) :=
  .put (fun _ => .same) (Table.get?_eq_some_iff.mp hget).1 rfl (.cancelled hp)

theorem cancelApprovalPost_affects {approvalId : String} {userId : Option String}
    {ans : Approval} (h : cancelApprovalPost now db approvalId userId = .ok (ans, db')) :
    Affects now op db db' := by
  unfold cancelApprovalPost at h
  split at h
  next => cases h
  next =>
    have h := mapError_eq_ok h
    unfold cancelApproval at h
    split at h
    next => cases h
    next a hget =>
      obtain ⟨hp, h⟩ := ite_error_eq_ok.mp h
      obtain ⟨-, h⟩ := ite_error_eq_ok.mp h
      obtain ⟨-, rfl⟩ := ok_pair_inj h
      exact affects_cancel hget (not_not.mp hp)

theorem cancelApprovalDelete_affects {approvalId requesterName : String} {ans : Approval}
    (h : cancelApprovalDelete now db approvalId requesterName = .ok (ans, db')) :
    Affects now op db db' := by
  unfold cancelApprovalDelete at h
  split at h
  next => cases h
  next a hget =>
    obtain ⟨hp, h⟩ := ite_error_eq_ok.mp h
    obtain ⟨-, h⟩ := ite_error_eq_ok.mp h
    obtain ⟨-, rfl⟩ := ok_pair_inj h
    exact affects_cancel hget (not_not.mp hp)

theorem expireOldApprovals_affects (hop : sweeps op = true) :
    Affects now op db (expireOldApprovals now db) := by
  refine .update (expireOld_id now) ?_
  intro a
  unfold expireOld
  split
  next h => exact .swept hop h.1 h.2
  next => exact .same

theorem listApprovals_affects {q : ListQuery} {ans : List Approval × Nat}
    (hop : op = .listApprovals q) (h : listApprovals now db q = .ok (ans, db')) :
    Affects now op db db' := by
  subst hop
  unfold listApprovals at h
  dsimp only at h
  split at h
  next =>
    split at h
    next => cases h
    next userId huser =>
      split at h
      next => cases h
      next hne =>
        obtain ⟨-, rfl⟩ := ok_pair_inj h
        apply expireOldApprovals_affects
        simp [sweeps, huser, truthy, hne]
  next hmine =>
    obtain ⟨-, rfl⟩ := ok_pair_inj h
    apply expireOldApprovals_affects
    simp [sweeps, hmine]

theorem processEscalations_affects {ans : Nat × Nat}
    (h : processEscalations now db = .ok (ans, db')) : Affects now op db db' := by
  unfold processEscalations processExpiredApprovals at h
  obtain ⟨approvals, hup, h⟩ := bind_eq_ok.mp h
  obtain ⟨-, rfl⟩ := ok_pair_inj h
  refine .updateM ?_ hup
  intro a a' h
  unfold processExpired at h
  split at h
  next hexp =>
    split at h
    next hleft => exact .escalated a' hexp.1 hleft h
    next hleft =>
      injection h with h
      subst h
      exact .timedOut hexp.1 (Nat.le_of_not_lt hleft)
  next =>
    injection h with h
    subst h
    exact .same

theorem createRule_affects {uuid : String} {data : ApprovalRuleCreate} {ans : ApprovalRule}
    (h : createRule db uuid data = .ok (ans, db')) : Affects now op db db' := by
  unfold createRule at h
  split at h
  next => cases h
  next =>
    dsimp only at h
    split at h
    next =>
      obtain ⟨-, rfl⟩ := ok_pair_inj h
      exact affects_refl rfl
    next => cases h

theorem updateRule_affects {ruleId : String} {data : ApprovalRuleUpdate} {ans : ApprovalRule}
    (h : updateRule db ruleId data = .ok (ans, db')) : Affects now op db db' := by
  unfold updateRule at h
  split at h
  next => cases h
  next =>
    split at h
    next => cases h
    next =>
      obtain ⟨-, rfl⟩ := ok_pair_inj h
      exact affects_refl rfl

theorem deleteRule_affects {ruleId : String} {ans : Unit}
    (h : deleteRule db ruleId = .ok (ans, db')) : Affects now op db db' := by
  unfold deleteRule at h
  split at h
  next => cases h
  next =>
    obtain ⟨-, rfl⟩ := ok_pair_inj h
    exact .update (clearRule_id ruleId) (fun _ => .ruleCleared ruleId)

end Handlers

/-- **ONE REQUEST**, row by row. -/
theorem exec_effect (db : DB) (r : Request) :
    db.approvals.Becomes (Effect db r) IsNew (exec db r).approvals := by
  obtain ⟨now, op⟩ := r
  have hok : ∀ {α : Type} {h : Except Exn (α × DB)},
      (∀ ans db', h = .ok (ans, db') → Affects now op db db') →
      Affects now op db (commitOrRollback db h) :=
    fun hh => commitOrRollback_preserves (affects_refl rfl) hh
  cases op with
  | createApproval uuid data => exact hok (fun _ _ h => createApproval_affects h)
  | createApprovalRequest uuid rule operationType requesterId requesterName =>
      refine hok (fun a db' h => ?_)
      obtain ⟨hnew, -, approvals, hins, rfl⟩ := createApprovalRequest_ok h
      exact affects_insert hnew hins
  | voteOnApproval approvalId vote comment userId userName =>
      exact hok (fun _ _ h => voteOnApproval_affects h)
  | approveRequest approvalId data => exact hok (fun _ _ h => castVoteLegacy_affects rfl h)
  | rejectRequest approvalId data => exact hok (fun _ _ h => castVoteLegacy_affects rfl h)
  | cancelApprovalPost approvalId userId => exact hok (fun _ _ h => cancelApprovalPost_affects h)
  | cancelApprovalDelete approvalId requesterName =>
      exact hok (fun _ _ h => cancelApprovalDelete_affects h)
  | getApprovalStats => exact expireOldApprovals_affects rfl
  | listApprovals query => exact hok (fun _ _ h => listApprovals_affects rfl h)
  | processEscalations => exact hok (fun _ _ h => processEscalations_affects h)
  | createRule uuid data => exact hok (fun _ _ h => createRule_affects h)
  | updateRule ruleId data => exact hok (fun _ _ h => updateRule_affects h)
  | deleteRule ruleId => exact hok (fun _ _ h => deleteRule_affects h)

/-! ## §5. What it means for the outcome. -/

/-- Every effect is one of the three changes. -/
theorem Effect.change {Q : Approval → ApprovalVote → Prop} {db : DB} {r : Request}
    {a a' : Approval} (h : Effect db r a a') (hservice : ∀ a v, NewVoter a v → Q a v)
    (hlegacy : ∀ approvalId data kind a, legacyVote r.op = some (approvalId, data, kind) →
      db.approvals.get? approvalId = some a → checkLegacyVote r.now a data.userName = none →
      Q a (data.toVote kind)) : Change Q r.now a a' := by
  cases h with
  | same => exact .kept a (.refl a)
  | voted v hp hv =>
      refine .voted v hp ?_
      rcases hv with hnew | ⟨approvalId, data, kind, hop, hget, hcheck, rfl⟩
      · exact hservice a v hnew
      · exact hlegacy approvalId data kind a hop hget hcheck
  | cancelled hp => exact .closed .cancelled hp (.inr rfl)
  | swept _ hp _ => exact .closed .expired hp (.inl rfl)
  | escalated _ _ _ hesc => exact .kept a' (escalateApproval_ok hesc).1
  | timedOut hp _ => exact .closed .expired hp (.inl rfl)
  | ruleCleared ruleId =>
      unfold clearRule
      split
      next => exact .kept _ ⟨rfl, rfl, rfl, rfl, rfl, rfl, rfl⟩
      next => exact .kept a (.refl a)

/-- **ONE REQUEST** makes one step of the table, for every `Q` that follows from what
the two vote paths check. -/
theorem exec_step {Q : Approval → ApprovalVote → Prop} (db : DB) (r : Request)
    (hservice : ∀ a v, NewVoter a v → Q a v)
    (hlegacy : ∀ approvalId data kind a, legacyVote r.op = some (approvalId, data, kind) →
      db.approvals.get? approvalId = some a → checkLegacyVote r.now a data.userName = none →
      Q a (data.toVote kind)) :
    Step Q r.now db (exec db r) := by
  have h := (exec_effect db r).mono (fun a _ a' heff => heff.change hservice hlegacy)
  exact ⟨h.next, h.prev⟩

end PureBoot.Approvals
