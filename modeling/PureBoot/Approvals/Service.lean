/-
  PureBoot.Approvals.Service — approval requests, their votes, and the service
  functions that work on them.

  Embeds the rows of `db/models.py` (`Approval`, `ApprovalVote`, `ApprovalRule`)
  and `services/approvals.py` (`create_approval_request`, `cast_vote`,
  `escalate_approval`, `process_expired_approvals`, `cancel_approval`,
  `get_pending_approvals_for_user`).  The votes of an approval are kept with it,
  in creation order; times are UTC microseconds.
-/
import PureBoot.Lib.Run
import PureBoot.Lib.Table

namespace PureBoot.Approvals

open PureBoot.Lib

/-! ## §1. Rows. -/

/-- `Approval.status`. -/
inductive Status where
  | pending
  | approved
  | rejected
  | expired
  | cancelled
  deriving DecidableEq, Repr

/-- The text stored in the `status` column. -/
def Status.name : Status → String
  | pending => "pending"
  | approved => "approved"
  | rejected => "rejected"
  | expired => "expired"
  | cancelled => "cancelled"

/-- `ApprovalVote.vote`. -/
inductive VoteKind where
  | approve
  | reject
  deriving DecidableEq, Repr

/-- The text stored in the `vote` column. -/
def VoteKind.name : VoteKind → String
  | approve => "approve"
  | reject => "reject"

/-- `vote in ("approve", "reject")`. -/
def VoteKind.ofText (s : String) : Option VoteKind :=
  if s = "approve" then some .approve else if s = "reject" then some .reject else none

/-- `db/models.py: ApprovalVote`. -/
structure ApprovalVote where
  userId : Option String
  userName : String
  vote : VoteKind
  comment : Option String := none
  isEscalationVote : Bool := false
  deriving DecidableEq, Repr

/-- `db/models.py: Approval`, without the action and metadata payloads. -/
structure Approval where
  id : String
  actionType : String
  operationType : String
  ruleId : Option String := none
  requesterId : Option String
  requesterName : String
  status : Status := .pending
  requiredApprovers : Int := 2
  escalatedAt : Option Int := none
  escalationCount : Nat := 0
  expiresAt : Int
  resolvedAt : Option Int := none
  createdAt : Int
  votes : List ApprovalVote := []
  deriving DecidableEq, Repr

/-- `ApprovalRule.scope_type`. -/
inductive ScopeType where
  | deviceGroup
  | userGroup
  | global
  deriving DecidableEq, Repr

/-- `db/models.py: ApprovalRule`. -/
structure ApprovalRule where
  id : String
  name : String
  scopeType : ScopeType
  scopeId : Option String := none
  operations : List String
  requiredApprovers : Int := 1
  escalationTimeoutHours : Int := 72
  escalationRoleId : Option String := none
  isActive : Bool := true
  priority : Int := 0
  deriving DecidableEq, Repr

/-- The tables the approval endpoints work on. -/
structure DB where
  approvals : Table Approval.id
  rules : Table ApprovalRule.id
  deriving DecidableEq

namespace DB

/-- The tables as `init_db` creates them. -/
def empty : DB where
  approvals := Table.empty
  rules := Table.empty

/-- Flush a changed approval. -/
def save (db : DB) (a : Approval) : DB :=
  { db with approvals := db.approvals.put a }

end DB

/-- The exceptions of the approval service and its endpoints. -/
inductive Exn where
  /-- `HTTPException(status_code, detail)`. -/
  | http (statusCode : Nat) (detail : String)
  /-- `ApprovalNotFoundError(approval_id)`. -/
  | approvalNotFound (approvalId : String)
  /-- `UserCannotVoteError(reason)`. -/
  | userCannotVote (reason : String)
  /-- `ValueError(detail)`. -/
  | valueError (detail : String)
  /-- `OverflowError` of a datetime outside the years 1 to 9999. -/
  | overflowError
  /-- `sqlalchemy.exc.IntegrityError`. -/
  | integrityError
  deriving DecidableEq, Repr

/-! ## §2. Times, counts and the outcome of a vote. -/

/-- `now + timedelta(hours=hours)`. -/
def addHours (now hours : Int) : Except Exn Int :=
  let t := now + hours * 3600000000
  -- datetime.min and datetime.max in microseconds since the epoch
  if -62135596800000000 ≤ t ∧ t ≤ 253402300799999999 then .ok t else .error .overflowError

/-- `sum(1 for v in approval.votes if v.vote == kind)`. -/
def countVotes (kind : VoteKind) (votes : List ApprovalVote) : Nat :=
  votes.countP (fun v => v.vote = kind)

namespace Approval

/-- `approve_count`. -/
def approveCount (a : Approval) : Nat :=
  countVotes .approve a.votes

/-- `reject_count`. -/
def rejectCount (a : Approval) : Nat :=
  countVotes .reject a.votes

/-- The threshold check, the same in both vote paths: approvals are looked at
first. -/
def outcome (a : Approval) : Option Status :=
  if a.requiredApprovers ≤ a.approveCount then some .approved
  else if a.requiredApprovers ≤ a.rejectCount then some .rejected
  else none

/-- `status = ...; resolved_at = now`. -/
def close (now : Int) (status : Status) (a : Approval) : Approval :=
  { a with status, resolvedAt := some now }

/-- Resolve the approval if a threshold is met. -/
def resolve (now : Int) (a : Approval) : Approval :=
  match a.outcome with
  | some status => a.close now status
  | none => a

/-- Insert a vote, reload the votes and check the thresholds. -/
def addVote (now : Int) (a : Approval) (v : ApprovalVote) : Approval :=
  resolve now { a with votes := a.votes ++ [v] }

/-- `approval.expires_at and now > approval.expires_at`. -/
def isExpired (now : Int) (a : Approval) : Bool :=
  a.expiresAt < now

end Approval

/-- `bool(s)` of an optional text. -/
def truthy : Option String → Bool
  | some s => s ≠ ""
  | none => false

/-! ## §3. The service functions. -/

/-- `create_approval_request`: a request governed by a rule. -/
def createApprovalRequest (now : Int) (db : DB) (uuid : String) (rule : ApprovalRule)
    (operationType requesterId requesterName : String) : Except Exn (Approval × DB) := do
  let expiresAt ← addHours now rule.escalationTimeoutHours
  let approval : Approval :=
    { id := uuid, ruleId := some rule.id, operationType, actionType := operationType,
      requesterId := some requesterId, requesterName,
      requiredApprovers := rule.requiredApprovers, expiresAt, createdAt := now }
  match db.approvals.insert? approval with
  | some approvals => .ok (approval, { db with approvals })
  | none => .error .integrityError

/-- The checks of `cast_vote` on the approval it loaded: the reason of a
`UserCannotVoteError`, if there is one. -/
def checkVote (now : Int) (a : Approval) (userId : Option String) (userName : String) :
    Option String :=
  if a.status ≠ .pending then
    some ("Approval is not pending (status: " ++ a.status.name ++ ")")
  else if a.isExpired now then some "Approval has expired"
  else if truthy userId = true ∧ a.requesterId = userId then
    some "You cannot vote on your own request (four-eye principle)"
  else if userName = a.requesterName then
    some "You cannot vote on your own request (four-eye principle)"
  else if a.votes.any (fun v => v.userId = userId || v.userName = userName) then
    some "You have already voted on this request"
  else none

/-- `cast_vote`.  On an expired approval the source also flushes `expired` before
it raises; the exception rolls that back. -/
def castVote (now : Int) (db : DB) (approvalId : String) (userId : Option String)
    (userName vote : String) (comment : Option String) (isEscalationVote : Bool) :
    Except Exn ((ApprovalVote × Bool) × DB) :=
  match VoteKind.ofText vote with
  | none => .error (.valueError ("Vote must be 'approve' or 'reject', got: " ++ vote))
  | some kind =>
    match db.approvals.get? approvalId with
    | none => .error (.approvalNotFound approvalId)
    | some a =>
      match checkVote now a userId userName with
      | some reason => .error (.userCannotVote reason)
      | none =>
          let v : ApprovalVote := { userId, userName, vote := kind, comment, isEscalationVote }
          let a' := a.addVote now v
          .ok ((v, a'.status ≠ .pending), db.save a')

/-- `cancel_approval`. -/
def cancelApproval (now : Int) (db : DB) (approvalId : String) (userId : Option String) :
    Except Exn (Approval × DB) :=
  match db.approvals.get? approvalId with
  | none => .error (.approvalNotFound approvalId)
  | some a =>
      if a.status ≠ .pending then
        .error (.userCannotVote
          ("Only pending approvals can be cancelled (status: " ++ a.status.name ++ ")"))
      else if a.requesterId ≠ userId then
        .error (.userCannotVote "Only the requester can cancel an approval")
      else .ok (a.close now .cancelled, db.save (a.close now .cancelled))

/-- `escalate_approval`: the timer restarts if the rule still exists. -/
def escalateApproval (now : Int) (rules : Table ApprovalRule.id) (a : Approval) :
    Except Exn Approval :=
  let a₁ := { a with escalatedAt := some now, escalationCount := a.escalationCount + 1 }
  match a.ruleId.bind rules.get? with
  | some rule => do
      let expiresAt ← addHours now rule.escalationTimeoutHours
      .ok { a₁ with expiresAt }
  | none => .ok a₁

/-- One turn of the loop of `process_expired_approvals`; a row the query does not
select is left alone. -/
def processExpired (now : Int) (rules : Table ApprovalRule.id) (maxEscalations : Nat)
    (a : Approval) : Except Exn Approval :=
  if a.status = .pending ∧ a.isExpired now = true then
    if a.escalationCount < maxEscalations then escalateApproval now rules a
    else .ok (a.close now .expired)
  else .ok a

/-- The loop never touches a primary key. -/
theorem processExpired_id {now : Int} {rules : Table ApprovalRule.id} {maxEscalations : Nat}
    (a a' : Approval) (h : processExpired now rules maxEscalations a = .ok a') :
    a'.id = a.id := by
  unfold processExpired at h
  split at h
  next =>
    split at h
    next =>
      unfold escalateApproval at h
      dsimp only at h
      split at h
      next =>
        obtain ⟨t, -, h⟩ := bind_eq_ok.mp h
        injection h with h
        rw [← h]
      next => injection h with h; rw [← h]
    next => injection h with h; rw [← h]; rfl
  next => injection h with h; rw [h]

/-- `process_expired_approvals`: escalated and auto-rejected counts. -/
def processExpiredApprovals (now : Int) (db : DB) (maxEscalations : Nat) :
    Except Exn ((Nat × Nat) × DB) := do
  let expired := db.approvals.rows.filter (fun a => a.status = .pending ∧ a.isExpired now = true)
  let approvals ← db.approvals.updateM (processExpired now db.rules maxEscalations) processExpired_id
  .ok ((expired.countP (fun a => a.escalationCount < maxEscalations),
        expired.countP (fun a => maxEscalations ≤ a.escalationCount)), { db with approvals })

/-- `get_pending_approvals_for_user`, newest first. -/
def getPendingApprovalsForUser (now : Int) (db : DB) (userId : String) : List Approval :=
  (db.approvals.rows.filter (fun a => a.status = .pending)).mergeSort
      (fun a b => b.createdAt ≤ a.createdAt)
    |>.filter (fun a => a.requesterId ≠ some userId ∧ a.isExpired now = false
        ∧ a.votes.all (fun v => v.userId ≠ some userId))

end PureBoot.Approvals
