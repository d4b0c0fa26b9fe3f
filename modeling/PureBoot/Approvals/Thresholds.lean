/-
  PureBoot.Approvals.Thresholds — the THRESHOLD an approval takes from its rule.

  `create_approval_request` copies `required_approvers` from the rule, and the rule
  endpoints take any integer for it.  `cast_vote` counts both sides after each vote and
  looks at the approvals first: with a threshold of at least 1 only the side that was
  voted for can reach it; a threshold of 0 or less is met by the approvals before there
  are any.

  Main results:
    * `castVote_saved` — what a vote that is not refused did, whoever voted;
    * `decidedByItsVotes_iff` — the requests that decide an approval as it was voted;
    * `votes_decide_iff` — the runs that do, and that thresholds of at least 1 are enough.
-/
import PureBoot.Approvals.Resolution

namespace PureBoot.Approvals

open PureBoot.Lib

/-! ## §1. Rules, approvals from them, and votes. -/

inductive RuleOp where
  /-- `POST /approval-rules`. -/
  | createRule (uuid : String) (data : ApprovalRuleCreate)
  /-- `PATCH /approval-rules/{rule_id}`. -/
  | updateRule (ruleId : String) (data : ApprovalRuleUpdate)
  /-- `create_approval_request`, for a stored rule. -/
  | request (uuid ruleId operationType requesterId requesterName : String)
  | castVote (approvalId : String) (userId : Option String) (userName vote : String)
      (comment : Option String) (isEscalationVote : Bool)
  deriving DecidableEq, Repr

/-- An operation and the time its handler reads. -/
structure RuleRequest where
  now : Int
  op : RuleOp
  deriving DecidableEq, Repr

/-- `create_approval_request` for the rule with this id, if there is one. -/
def requestUnder (now : Int) (db : DB)
    (uuid ruleId operationType requesterId requesterName : String) : DB :=
  match db.rules.get? ruleId with
  | none => db
  | some rule =>
      commitOrRollback db
        (createApprovalRequest now db uuid rule operationType requesterId requesterName)

/-- One request in its own session. -/
def ruleStep (db : DB) (r : RuleRequest) : DB :=
  match r.op with
  | .createRule uuid data => commitOrRollback db (createRule db uuid data)
  | .updateRule ruleId data => commitOrRollback db (updateRule db ruleId data)
  | .request uuid ruleId operationType requesterId requesterName =>
      requestUnder r.now db uuid ruleId operationType requesterId requesterName
  | .castVote approvalId userId userName vote comment isEscalationVote =>
      commitOrRollback db
        (castVote r.now db approvalId userId userName vote comment isEscalationVote)

/-! ## §2. What is claimed of a request, and when it holds. -/

/-- The request votes so on this approval. -/
def RuleOp.casts (op : RuleOp) (approvalId vote : String) : Prop :=
  match op with
  | .castVote id _ _ text _ _ => id = approvalId ∧ text = vote
  | _ => False

/-- An approval gets this status in the request only by a vote of this value. -/
def BecomesBy (status : Status) (vote : String) (db : DB) (r : RuleRequest) : Prop :=
  ∀ a' ∈ (ruleStep db r).approvals.rows, a'.status = status →
    (∃ a ∈ db.approvals.rows, a.id = a'.id ∧ a.status = status) ∨ r.op.casts a'.id vote

/-- **AN APPROVAL IS DECIDED AS IT WAS VOTED.** -/
def DecidedByItsVotes (db : DB) (r : RuleRequest) : Prop :=
  BecomesBy .approved "approve" db r ∧ BecomesBy .rejected "reject" db r

/-- The vote is a rejection that passes the checks, on an approval that asks for no
approver. -/
def rejectsUnasked (now : Int) (a : Approval) (userId : Option String) (userName vote : String) :
    Bool :=
  vote = "reject" ∧ a.requiredApprovers < 1 ∧ checkVote now a userId userName = none

/-- The request does not reject an approval that asks for no approver. -/
def voteMeets (db : DB) (r : RuleRequest) : Bool :=
  match r.op with
  | .castVote approvalId userId userName vote _ _ =>
      (db.approvals.get? approvalId).all (fun a => !rejectsUnasked r.now a userId userName vote)
  | _ => true

/-- The request sets no threshold below 1. -/
def RuleOp.asksForOne : RuleOp → Bool
  | .createRule _ data => 1 ≤ data.requiredApprovers
  | .updateRule _ data => data.requiredApprovers.all (fun n => 1 ≤ n)
  | _ => true

/-! ## §3. One vote. -/

section Votes

variable {now : Int} {a : Approval} {v : ApprovalVote}

theorem addVote_id (now : Int) (a : Approval) (v : ApprovalVote) :
    (a.addVote now v).id = a.id :=
  (resolve_same now _).1

theorem addVote_requiredApprovers (now : Int) (a : Approval) (v : ApprovalVote) :
    (a.addVote now v).requiredApprovers = a.requiredApprovers :=
  (resolve_same now _).2.2.2.1

/-- The status after a vote, from the counts of both sides. -/
theorem addVote_status (now : Int) (a : Approval) (v : ApprovalVote) :
    (a.addVote now v).status
      = if a.requiredApprovers ≤ countVotes .approve (a.votes ++ [v]) then .approved
        else if a.requiredApprovers ≤ countVotes .reject (a.votes ++ [v]) then .rejected
        else a.status := by
  unfold Approval.addVote Approval.resolve Approval.outcome Approval.approveCount
    Approval.rejectCount
  by_cases happ : a.requiredApprovers ≤ countVotes .approve (a.votes ++ [v])
  · simp only [if_pos happ, Approval.close]
  · by_cases hrej : a.requiredApprovers ≤ countVotes .reject (a.votes ++ [v])
    · simp only [if_neg happ, if_pos hrej, Approval.close]
    · simp only [if_neg happ, if_neg hrej]

/-- A rejection approves nothing that asks for an approver. -/
theorem addVote_reject (hp : a.status = .pending) (h : Resolution a) (hv : v.vote = .reject) :
    (a.addVote now v).status ≠ .approved := by
  obtain ⟨-, happ, -⟩ := h.pending hp
  have hcount : countVotes .approve (a.votes ++ [v]) = a.approveCount := by
    rw [countVotes_append, hv]
    rfl
  rw [addVote_status, hcount, if_neg (by omega), hp]
  split
  next => decide
  next => decide

/-- An approval does not reject. -/
theorem addVote_approve (hp : a.status = .pending)
    (h : 1 ≤ a.requiredApprovers → Resolution a) (hv : v.vote = .approve) :
    (a.addVote now v).status ≠ .rejected := by
  have hcount : countVotes .reject (a.votes ++ [v]) = a.rejectCount := by
    rw [countVotes_append, hv]
    rfl
  rw [addVote_status, hcount, hp]
  split
  next => decide
  next happ =>
    -- the approvals are not enough, so one is asked for and the rejections are not either
    obtain ⟨-, -, hrej⟩ := (h (by omega)).pending hp
    rw [if_neg (by omega)]
    decide

/-- Any vote approves what asks for no approver. -/
theorem addVote_unasked (hreq : a.requiredApprovers < 1) :
    (a.addVote now v).status = .approved := by
  rw [addVote_status, if_pos (by omega)]

theorem checkVote_pending {userId : Option String} {userName : String}
    (h : checkVote now a userId userName = none) : a.status = .pending := by
  unfold checkVote at h
  by_contra hne
  rw [if_pos hne] at h
  cases h

theorem ofText_eq_approve {text : String} (h : VoteKind.ofText text = some .approve) :
    text = "approve" := by
  unfold VoteKind.ofText at h
  split at h
  next heq => exact heq
  next => split at h <;> cases h

theorem ofText_eq_reject {text : String} (h : VoteKind.ofText text = some .reject) :
    text = "reject" := by
  unfold VoteKind.ofText at h
  split at h
  next => cases h
  next =>
    split at h
    next heq => exact heq
    next => cases h

/-- **A VOTE THAT IS NOT REFUSED** is added to the approval it is for, whoever voted. -/
theorem castVote_saved {db db' : DB} {approvalId userName vote : String}
    {userId comment : Option String} {esc : Bool} {ans : ApprovalVote × Bool}
    (h : castVote now db approvalId userId userName vote comment esc = .ok (ans, db')) :
    ∃ a kind, VoteKind.ofText vote = some kind ∧ db.approvals.get? approvalId = some a ∧
      checkVote now a userId userName = none ∧ ans.1.vote = kind ∧
      db' = db.save (a.addVote now ans.1) := by
  unfold castVote at h
  split at h
  next => cases h
  next kind hkind =>
    split at h
    next => cases h
    next a hget =>
      split at h
      next => cases h
      next hcheck =>
        obtain ⟨rfl, rfl⟩ := ok_pair_inj h
        exact ⟨a, kind, hkind, hget, hcheck, rfl, rfl⟩

/-- A vote that passes the checks is not refused. -/
theorem castVote_accepts {db : DB} {approvalId userName vote : String}
    {userId : Option String} {kind : VoteKind} (hkind : VoteKind.ofText vote = some kind)
    (hget : db.approvals.get? approvalId = some a)
    (hcheck : checkVote now a userId userName = none) (comment : Option String) (esc : Bool) :
    ∃ ans, castVote now db approvalId userId userName vote comment esc
      = .ok (ans, db.save (a.addVote now ans.1)) := by
  unfold castVote
  simp only [hkind, hget, hcheck]
  exact ⟨_, rfl⟩

end Votes

/-! ## §4. One request. -/

section Steps

variable {db : DB} {r : RuleRequest}

/-- An approval takes the threshold of its rule. -/
theorem createApprovalRequest_required {now : Int} {db db' : DB} {uuid : String}
    {rule : ApprovalRule} {operationType requesterId requesterName : String} {a : Approval}
    (h : createApprovalRequest now db uuid rule operationType requesterId requesterName
      = .ok (a, db')) : a.requiredApprovers = rule.requiredApprovers := by
  unfold createApprovalRequest at h
  obtain ⟨t, -, h⟩ := bind_eq_ok.mp h
  dsimp only at h
  split at h
  next =>
    obtain ⟨rfl, -⟩ := ok_pair_inj h
    rfl
  next => cases h

/-- A new approval with the threshold of a stored rule. -/
structure Requested (db : DB) (a : Approval) : Prop where
  new : IsNew a
  threshold : ∃ rule ∈ db.rules.rows, a.requiredApprovers = rule.requiredApprovers

/-- The request votes `v` on the pending approval `a`. -/
structure VotesOn (db : DB) (r : RuleRequest) (a : Approval) (v : ApprovalVote) : Prop where
  mem : a ∈ db.approvals.rows
  pending : a.status = .pending
  casts : r.op.casts a.id v.vote.name
  asked : voteMeets db r = true → v.vote = .reject → 1 ≤ a.requiredApprovers

theorem casts_of_ofText {approvalId userName vote : String} {userId comment : Option String}
    {esc : Bool} {kind : VoteKind} (h : VoteKind.ofText vote = some kind) :
    RuleOp.casts (.castVote approvalId userId userName vote comment esc) approvalId kind.name := by
  refine ⟨rfl, ?_⟩
  cases kind with
  | approve => exact ofText_eq_approve h
  | reject => exact ofText_eq_reject h

theorem createRule_ok {db db' : DB} {uuid : String} {data : ApprovalRuleCreate}
    {ans : ApprovalRule} (h : createRule db uuid data = .ok (ans, db')) :
    db'.approvals = db.approvals ∧ ∀ rule ∈ db'.rules.rows,
      rule ∈ db.rules.rows ∨ rule.requiredApprovers = data.requiredApprovers := by
  unfold createRule at h
  obtain ⟨-, h⟩ := ite_error_eq_ok.mp h
  dsimp only at h
  split at h
  next rules hins =>
    obtain ⟨-, rfl⟩ := ok_pair_inj h
    refine ⟨rfl, fun rule hrule => ?_⟩
    rw [(Table.insert?_eq_some_iff.mp hins).2, List.mem_append, List.mem_singleton] at hrule
    exact hrule.imp_right (fun heq => by rw [heq])
  next => cases h

theorem updateRule_ok {db db' : DB} {ruleId : String} {data : ApprovalRuleUpdate}
    {ans : ApprovalRule} (h : updateRule db ruleId data = .ok (ans, db')) :
    db'.approvals = db.approvals ∧ ∀ rule ∈ db'.rules.rows,
      rule ∈ db.rules.rows ∨ ∃ old ∈ db.rules.rows,
        rule.requiredApprovers = data.requiredApprovers.getD old.requiredApprovers := by
  unfold updateRule at h
  split at h
  next => cases h
  next old hget =>
    obtain ⟨-, h⟩ := ite_error_eq_ok.mp h
    dsimp only at h
    obtain ⟨-, rfl⟩ := ok_pair_inj h
    have hold := (Table.get?_eq_some_iff.mp hget).1
    refine ⟨rfl, fun rule hrule => ?_⟩
    rcases (Table.mem_put_iff ⟨old, hold, by rfl⟩).mp hrule with rfl | ⟨hrule, -⟩
    · exact .inr ⟨old, hold, rfl⟩
    · exact .inl hrule

theorem mem_requestUnder {now : Int}
    {uuid ruleId operationType requesterId requesterName : String} {a' : Approval}
    (h : a' ∈ (requestUnder now db uuid ruleId operationType requesterId
      requesterName).approvals.rows) : a' ∈ db.approvals.rows ∨ Requested db a' := by
  unfold requestUnder at h
  split at h
  next => exact .inl h
  next rule hget =>
    cases hok : createApprovalRequest now db uuid rule operationType requesterId
        requesterName with
    | error e =>
        rw [hok] at h
        exact .inl h
    | ok out =>
        obtain ⟨a, db'⟩ := out
        rw [hok] at h
        obtain ⟨hnew, -, approvals, hins, rfl⟩ := createApprovalRequest_ok hok
        change a' ∈ approvals.rows at h
        rw [(Table.insert?_eq_some_iff.mp hins).2, List.mem_append, List.mem_singleton] at h
        refine h.imp_right (fun heq => ?_)
        rw [heq]
        exact ⟨hnew, rule, (Table.get?_eq_some_iff.mp hget).1,
          createApprovalRequest_required hok⟩

theorem mem_castVote {now : Int} {approvalId userName vote : String}
    {userId comment : Option String} {esc : Bool} {a' : Approval}
    (h : a' ∈ (commitOrRollback db
      (castVote now db approvalId userId userName vote comment esc)).approvals.rows) :
    a' ∈ db.approvals.rows ∨ ∃ a v,
      VotesOn db ⟨now, .castVote approvalId userId userName vote comment esc⟩ a v ∧
        a' = a.addVote now v := by
  -- a refused vote is rolled back
  cases hok : castVote now db approvalId userId userName vote comment esc with
  | error e =>
      rw [hok] at h
      exact .inl h
  | ok out =>
      obtain ⟨ans, db'⟩ := out
      rw [hok] at h
      obtain ⟨a, kind, hkind, hget, hcheck, hvote, rfl⟩ := castVote_saved hok
      obtain ⟨ha, rfl⟩ := Table.get?_eq_some_iff.mp hget
      rcases (Table.mem_put_iff ⟨a, ha, (addVote_id now a ans.1).symm⟩).mp h with rfl | ⟨h, -⟩
      · refine .inr ⟨a, ans.1, ⟨ha, checkVote_pending hcheck, ?_, ?_⟩, rfl⟩
        · rw [hvote]
          exact casts_of_ofText hkind
        · intro hmeets hreject
          rw [hvote] at hreject
          subst hreject
          by_contra hreq
          change (db.approvals.get? a.id).all _ = true at hmeets
          rw [hget, Option.all_some, Bool.not_eq_true'] at hmeets
          exact of_decide_eq_false hmeets ⟨ofText_eq_reject hkind, by omega, hcheck⟩
      · exact .inl h

/-- **WHAT A REQUEST DOES TO THE APPROVALS**: each one of the result was there, or is new, or
took one vote. -/
theorem mem_ruleStep {a' : Approval} (h : a' ∈ (ruleStep db r).approvals.rows) :
    a' ∈ db.approvals.rows ∨ Requested db a' ∨
      ∃ a v, VotesOn db r a v ∧ a' = a.addVote r.now v := by
  obtain ⟨now, op⟩ := r
  cases op with
  | createRule uuid data =>
      refine .inl (commitOrRollback_preserves
        (P := fun d : DB => a' ∈ d.approvals.rows → a' ∈ db.approvals.rows) id ?_ h)
      intro ans db' hok
      rw [(createRule_ok hok).1]
      exact id
  | updateRule ruleId data =>
      refine .inl (commitOrRollback_preserves
        (P := fun d : DB => a' ∈ d.approvals.rows → a' ∈ db.approvals.rows) id ?_ h)
      intro ans db' hok
      rw [(updateRule_ok hok).1]
      exact id
  | request uuid ruleId operationType requesterId requesterName =>
      exact (mem_requestUnder h).imp_right .inl
  | castVote approvalId userId userName vote comment esc => exact (mem_castVote h).imp_right .inr

/-- Every request keeps status and counts related. -/
theorem ruleStep_resolution (hinv : ResolutionOk db) : ResolutionOk (ruleStep db r) := by
  intro a' ha' hreq
  rcases mem_ruleStep ha' with hold | hnew | ⟨a, v, hv, rfl⟩
  · exact hinv a' hold hreq
  · exact resolution_new hreq hnew.new
  · rw [addVote_requiredApprovers] at hreq
    exact resolution_addVote hv.pending (hinv a hv.mem hreq)

/-- **ONE REQUEST DECIDES APPROVALS AS THEY WERE VOTED, EXACTLY IF** it does not reject an
approval that asks for no approver. -/
theorem decidedByItsVotes_iff (hinv : ResolutionOk db) :
    DecidedByItsVotes db r ↔ voteMeets db r = true := by
  constructor
  · intro hlaw
    obtain ⟨now, op⟩ := r
    cases op with
    | createRule _ _ => rfl
    | updateRule _ _ => rfl
    | request _ _ _ _ _ => rfl
    | castVote approvalId userId userName vote comment esc =>
        cases hget : db.approvals.get? approvalId with
        | none =>
            show (db.approvals.get? approvalId).all _ = true
            rw [hget]
            rfl
        | some a =>
            show (db.approvals.get? approvalId).all _ = true
            rw [hget, Option.all_some, Bool.not_eq_true']
            refine decide_eq_false ?_
            rintro ⟨rfl, hreq, hcheck⟩
            -- the rejection approves it, and it was pending
            have hkind : VoteKind.ofText "reject" = some .reject := by decide
            obtain ⟨ans, hok⟩ := castVote_accepts hkind hget hcheck comment esc
            obtain ⟨ha, rfl⟩ := Table.get?_eq_some_iff.mp hget
            have hid := addVote_id now a ans.1
            have hmem : a.addVote now ans.1 ∈ (ruleStep db
                ⟨now, .castVote a.id userId userName "reject" comment esc⟩).approvals.rows := by
              show a.addVote now ans.1 ∈ (commitOrRollback db
                (castVote now db a.id userId userName "reject" comment esc)).approvals.rows
              rw [hok]
              exact Table.mem_put_self ha hid.symm
            rcases hlaw.1 _ hmem (addVote_unasked hreq) with ⟨b, hb, hbid, hbs⟩ | ⟨-, htext⟩
            · rw [db.approvals.eq_of_key_eq hb ha (hbid.trans hid), checkVote_pending hcheck] at hbs
              cases hbs
            · revert htext
              decide
  -- any other vote can only complete its own side
  · intro hmeets
    constructor
    · intro a' ha' hs
      rcases mem_ruleStep ha' with hold | hnew | ⟨a, v, hv, rfl⟩
      · exact .inl ⟨a', hold, rfl, hs⟩
      · rw [hnew.new.status] at hs
        cases hs
      · rw [addVote_id]
        cases hvote : v.vote with
        | approve => exact .inr (by simpa [hvote, VoteKind.name] using hv.casts)
        | reject =>
            have hreq := hv.asked hmeets hvote
            exact absurd hs (addVote_reject hv.pending (hinv a hv.mem hreq) hvote)
    · intro a' ha' hs
      rcases mem_ruleStep ha' with hold | hnew | ⟨a, v, hv, rfl⟩
      · exact .inl ⟨a', hold, rfl, hs⟩
      · rw [hnew.new.status] at hs
        cases hs
      · rw [addVote_id]
        cases hvote : v.vote with
        | reject => exact .inr (by simpa [hvote, VoteKind.name] using hv.casts)
        | approve => exact absurd hs (addVote_approve hv.pending (hinv a hv.mem) hvote)

/-! Thresholds of at least 1. -/

/-- Every rule and every approval asks for an approver. -/
structure AllAsked (db : DB) : Prop where
  rules : ∀ rule ∈ db.rules.rows, 1 ≤ rule.requiredApprovers
  approvals : ∀ a ∈ db.approvals.rows, 1 ≤ a.requiredApprovers

theorem voteMeets_of_allAsked (h : AllAsked db) : voteMeets db r = true := by
  obtain ⟨now, op⟩ := r
  cases op with
  | createRule _ _ => rfl
  | updateRule _ _ => rfl
  | request _ _ _ _ _ => rfl
  | castVote approvalId userId userName vote comment esc =>
      show (db.approvals.get? approvalId).all _ = true
      rw [Option.all_eq_true]
      intro a hget
      have hreq := h.approvals a (Table.get?_eq_some_iff.mp hget).1
      rw [Bool.not_eq_true']
      refine decide_eq_false ?_
      rintro ⟨-, hlt, -⟩
      omega

/-- Every rule asks for an approval. -/
def RulesAsk (db : DB) : Prop := ∀ rule ∈ db.rules.rows, 1 ≤ rule.requiredApprovers

theorem ruleStep_rules (hinv : AllAsked db) (hop : r.op.asksForOne = true) :
    RulesAsk (ruleStep db r) := by
  obtain ⟨now, op⟩ := r
  cases op with
  | createRule uuid data =>
      refine commitOrRollback_preserves (P := RulesAsk) hinv.rules ?_
      intro ans db' hok rule hrule
      rcases (createRule_ok hok).2 rule hrule with hold | hreq
      · exact hinv.rules rule hold
      · rw [hreq]
        exact of_decide_eq_true hop
  | updateRule ruleId data =>
      refine commitOrRollback_preserves (P := RulesAsk) hinv.rules ?_
      intro ans db' hok rule hrule
      rcases (updateRule_ok hok).2 rule hrule with hold | ⟨old, hold, hreq⟩
      · exact hinv.rules rule hold
      · rw [hreq]
        change data.requiredApprovers.all _ = true at hop
        -- a threshold that is not given stays
        cases hdata : data.requiredApprovers with
        | none => exact hinv.rules old hold
        | some n =>
            rw [hdata] at hop
            exact of_decide_eq_true hop
  | request uuid ruleId operationType requesterId requesterName =>
      show RulesAsk (requestUnder now db uuid ruleId operationType requesterId requesterName)
      unfold requestUnder
      split
      next => exact hinv.rules
      next stored _ =>
        refine commitOrRollback_preserves (P := RulesAsk) hinv.rules ?_
        intro ans db' hok
        obtain ⟨-, -, approvals, -, rfl⟩ := createApprovalRequest_ok hok
        exact hinv.rules
  | castVote approvalId userId userName vote comment esc =>
      refine commitOrRollback_preserves (P := RulesAsk) hinv.rules ?_
      intro ans db' hok
      obtain ⟨a, kind, -, -, -, -, rfl⟩ := castVote_saved hok
      exact hinv.rules

theorem ruleStep_allAsked (hinv : AllAsked db) (hop : r.op.asksForOne = true) :
    AllAsked (ruleStep db r) where
  rules := ruleStep_rules hinv hop
  approvals := by
    intro a' ha'
    rcases mem_ruleStep ha' with hold | ⟨-, rule, hrule, hreq⟩ | ⟨a, v, hv, rfl⟩
    · exact hinv.approvals a' hold
    · rw [hreq]
      exact hinv.rules rule hrule
    · rw [addVote_requiredApprovers]
      exact hinv.approvals a hv.mem

end Steps

/-! ## §5. Runs. -/

theorem resolutionOk_empty : ResolutionOk DB.empty := by
  intro a ha
  cases ha

theorem allAsked_empty : AllAsked DB.empty where
  rules := fun _ h => (nomatch h)
  approvals := fun _ h => (nomatch h)

/-- **A REJECTION APPROVES NOTHING, EXACTLY IF** no approval that asks for no approver is
rejected in the run; a run whose rule requests set no threshold below 1 is such a run. -/
theorem votes_decide_iff (reqs : List RuleRequest) :
    (Along ruleStep DecidedByItsVotes DB.empty reqs
      ↔ Along ruleStep (fun db r => voteMeets db r = true) DB.empty reqs)
    ∧ ((∀ r ∈ reqs, r.op.asksForOne = true) →
        Along ruleStep DecidedByItsVotes DB.empty reqs) := by
  have hiff : Along ruleStep DecidedByItsVotes DB.empty reqs
      ↔ Along ruleStep (fun db r => voteMeets db r = true) DB.empty reqs :=
    along_iff_of_step (fun _ _ hinv _ => ruleStep_resolution hinv)
      (fun _ _ hinv => decidedByItsVotes_iff hinv) resolutionOk_empty
  refine ⟨hiff, fun hreqs => hiff.mpr ?_⟩
  have htrue : Along ruleStep (fun _ _ => True) DB.empty reqs := along_true DB.empty reqs
  have hlabels := htrue.and_label hreqs
  exact Along.of_step (fun _ _ hinv hop => ruleStep_allAsked hinv hop.1)
    (fun _ _ hinv _ => voteMeets_of_allAsked hinv) allAsked_empty hlabels

/-- A rule that asks for one approver is enough for Bob's rejection to be one. -/
theorem votes_decide_one_approver :
    (∀ r ∈ ([⟨0, .createRule "r" { name := "wipes", scopeType := .global, operations := ["*"] }⟩,
        ⟨1, .request "a" "r" "node.wipe" "1" "alice"⟩,
        ⟨2, .castVote "a" (some "2") "bob" "reject" none false⟩] : List RuleRequest),
      r.op.asksForOne = true)
    ∧ Along ruleStep DecidedByItsVotes DB.empty
      [⟨0, .createRule "r" { name := "wipes", scopeType := .global, operations := ["*"] }⟩,
        ⟨1, .request "a" "r" "node.wipe" "1" "alice"⟩,
        ⟨2, .castVote "a" (some "2") "bob" "reject" none false⟩] :=
  ⟨by decide, (votes_decide_iff _).2 (by decide)⟩

/-- A rule that asks for no approver, a wipe requested under it by Alice, and the rejection
that Bob casts. -/
def rejectedUnasked : List RuleRequest :=
  [⟨0, .createRule "r"
    { name := "wipes", scopeType := .global, operations := ["*"], requiredApprovers := 0 }⟩,
   ⟨1, .request "a" "r" "node.wipe" "1" "alice"⟩,
   ⟨2, .castVote "a" (some "2") "bob" "reject" none false⟩]

/-- Bob's rejection approves the wipe. -/
theorem rejection_approves :
    ¬ Along ruleStep DecidedByItsVotes DB.empty rejectedUnasked := by
  intro h
  obtain ⟨-, -, ⟨hlaw, -⟩, -⟩ := h
  have hmem : ∃ a' ∈ (run ruleStep DB.empty rejectedUnasked).approvals.rows,
      a'.status = .approved := by decide
  obtain ⟨a', ha', hs⟩ := hmem
  rcases hlaw a' ha' hs with ⟨a, ha, -, hpending⟩ | ⟨-, htext⟩
  · have hbefore : ∀ a ∈ (run ruleStep DB.empty (rejectedUnasked.take 2)).approvals.rows,
        a.status ≠ .approved := by decide
    exact hbefore a ha hpending
  · revert htext
    decide

end PureBoot.Approvals
