/-
  PureBoot.Approvals.Api — the approval endpoints, the rule endpoints and the
  escalation job.

  Embeds `api/routes/approvals.py`, `api/routes/approval_rules.py` and
  `core/escalation_job.py`.  Two vote paths write to the same votes: `POST /vote`
  goes through the service, the legacy `/approve` and `/reject` have an
  implementation of their own, with other checks in another order.  `exec` runs
  one request in its own session.
-/
import PureBoot.Approvals.Service

namespace PureBoot.Approvals

open PureBoot.Lib

/-! ## §1. Creating approvals. -/

/-- `APPROVAL_EXPIRY_HOURS`. -/
def approvalExpiryHours : Int := 24

/-- `VALID_ACTION_TYPES` (a set: the order in the error text is Python's). -/
def validActionTypes : List String :=
  ["bulk_wipe", "bulk_retire", "delete_template", "production_state_change"]

/-- `ApprovalCreate`, without the action payload. -/
structure ApprovalCreate where
  actionType : String
  requesterName : String
  requesterId : Option String := none
  requiredApprovers : Int := 2
  deriving DecidableEq, Repr

/-- `create_approval`. -/
def createApproval (now : Int) (db : DB) (uuid : String) (data : ApprovalCreate) :
    Except Exn (Approval × DB) :=
  if data.actionType ∉ validActionTypes then
    .error (.http 400 ("Invalid action type. Must be one of: "
      ++ String.intercalate ", " validActionTypes))
  else if data.requiredApprovers < 1 ∨ 5 < data.requiredApprovers then
    .error (.http 400 "Required approvers must be between 1 and 5")
  else do
    let expiresAt ← addHours now approvalExpiryHours
    let approval : Approval :=
      { id := uuid, actionType := data.actionType, operationType := data.actionType,
        requesterId := data.requesterId, requesterName := data.requesterName,
        requiredApprovers := data.requiredApprovers, expiresAt, createdAt := now }
    match db.approvals.insert? approval with
    | some approvals => .ok (approval, { db with approvals })
    | none => .error .integrityError

/-! ## §2. Votes. -/

/-- What an endpoint answers for the exceptions of the service; `cannotVote` is the
status it gives a refused user. -/
def toHttp (cannotVote : Nat) : Exn → Exn
  | .approvalNotFound _ => .http 404 "Approval not found"
  | .userCannotVote reason => .http cannotVote reason
  | .valueError detail => .http 400 detail
  | e => e

/-- `vote_on_approval`: the voter is the authenticated user. -/
def voteOnApproval (now : Int) (db : DB) (approvalId vote : String) (comment : Option String)
    (userId userName : Option String) : Except Exn ((ApprovalVote × Bool) × DB) :=
  if VoteKind.ofText vote = none then
    .error (.http 400 "Vote must be 'approve' or 'reject'")
  else
    match userName with
    | none => .error (.http 401 "Authentication required")
    | some name =>
        if truthy userId = false ∨ name = "" then .error (.http 401 "Authentication required")
        else (castVote now db approvalId userId name vote comment false).mapError (toHttp 400)

/-- `LegacyVoteCreate`. -/
structure LegacyVoteCreate where
  userName : String
  userId : Option String := none
  comment : Option String := none
  deriving DecidableEq, Repr

/-- The vote row of a legacy request. -/
def LegacyVoteCreate.toVote (data : LegacyVoteCreate) (voteType : VoteKind) : ApprovalVote :=
  { userId := data.userId, userName := data.userName, vote := voteType, comment := data.comment }

/-- The checks of `_cast_vote` on the approval it loaded: the detail of the 400 it
answers, if it refuses.  They compare names only. -/
def checkLegacyVote (now : Int) (a : Approval) (userName : String) : Option String :=
  if a.status ≠ .pending then some "This approval is no longer pending"
  else if a.votes.any (fun v => v.userName = userName) then
    some "You have already voted on this request"
  else if userName = a.requesterName then some "You cannot vote on your own request"
  -- the source stores `expired` here, and the session is rolled back with the 400
  else if a.isExpired now then some "This approval request has expired"
  else none

/-- `_cast_vote`: the legacy vote. -/
def castVoteLegacy (now : Int) (db : DB) (approvalId : String) (data : LegacyVoteCreate)
    (voteType : VoteKind) : Except Exn (String × DB) :=
  match db.approvals.get? approvalId with
  | none => .error (.http 404 "Approval not found")
  | some a =>
      match checkLegacyVote now a data.userName with
      | some detail => .error (.http 400 detail)
      | none =>
          let a' := a.addVote now (data.toVote voteType)
          let message := match a'.status with
            | .approved => "Approval request approved"
            | .rejected => "Approval request rejected"
            | _ => "Vote recorded (" ++ voteType.name ++ ")"
          .ok (message, db.save a')

/-- `approve_request`. -/
def approveRequest (now : Int) (db : DB) (approvalId : String) (data : LegacyVoteCreate) :
    Except Exn (String × DB) :=
  castVoteLegacy now db approvalId data .approve

/-- `reject_request`. -/
def rejectRequest (now : Int) (db : DB) (approvalId : String) (data : LegacyVoteCreate) :
    Except Exn (String × DB) :=
  castVoteLegacy now db approvalId data .reject

/-! ## §3. Cancelling, listing, expiring. -/

/-- `cancel_approval_post`. -/
def cancelApprovalPost (now : Int) (db : DB) (approvalId : String) (userId : Option String) :
    Except Exn (Approval × DB) :=
  if truthy userId = false then .error (.http 401 "Authentication required")
  else (cancelApproval now db approvalId userId).mapError (toHttp 403)

/-- `cancel_approval_delete`: the legacy endpoint goes by the requester's name. -/
def cancelApprovalDelete (now : Int) (db : DB) (approvalId requesterName : String) :
    Except Exn (Approval × DB) :=
  match db.approvals.get? approvalId with
  | none => .error (.http 404 "Approval not found")
  | some a =>
      if a.status ≠ .pending then
        .error (.http 400 "Only pending approvals can be cancelled")
      else if a.requesterName ≠ requesterName then
        .error (.http 403 "Only the requester can cancel this approval")
      else .ok (a.close now .cancelled, db.save (a.close now .cancelled))

/-- What `_expire_old_approvals` does to one row. -/
def expireOld (now : Int) (a : Approval) : Approval :=
  if a.status = .pending ∧ a.isExpired now = true then a.close now .expired else a

theorem expireOld_id (now : Int) (a : Approval) : (expireOld now a).id = a.id := by
  unfold expireOld
  split <;> rfl

/-- `_expire_old_approvals`. -/
def expireOldApprovals (now : Int) (db : DB) : DB :=
  { db with approvals := db.approvals.update (expireOld now) (expireOld_id now) }

/-- `get_approval_stats`: the pending count, after the sweep. -/
def getApprovalStats (now : Int) (db : DB) : Except Exn (Nat × DB) :=
  let db' := expireOldApprovals now db
  .ok (db'.approvals.rows.countP (fun a => a.status = .pending), db')

/-- The query parameters of `list_approvals` and the authenticated user. -/
structure ListQuery where
  status : Option String := none
  requesterName : Option String := none
  myPending : Bool := false
  limit : Nat := 50
  offset : Nat := 0
  userId : Option String := none
  deriving DecidableEq, Repr

/-- `list_approvals`: the page and the total, after the sweep. -/
def listApprovals (now : Int) (db : DB) (q : ListQuery) :
    Except Exn ((List Approval × Nat) × DB) :=
  let db' := expireOldApprovals now db
  let page (xs : List Approval) := (xs.drop q.offset).take q.limit
  -- a 401 after the sweep rolls the sweep back
  if q.myPending then
    match q.userId with
    | none => .error (.http 401 "Authentication required for my_pending filter")
    | some userId =>
        if userId = "" then .error (.http 401 "Authentication required for my_pending filter")
        else
          let mine := getPendingApprovalsForUser now db' userId
          .ok ((page mine, mine.length), db')
  else
    let found := db'.approvals.rows.filter (fun a =>
      (!truthy q.status || q.status.all (fun s => a.status.name = s))
        && (!truthy q.requesterName || q.requesterName.all (fun n => a.requesterName = n)))
    .ok ((page (found.mergeSort (fun a b => b.createdAt ≤ a.createdAt)), found.length), db')

/-- `MAX_ESCALATIONS`. -/
def maxEscalations : Nat := 3

/-- `process_escalations`, the periodic job. -/
def processEscalations (now : Int) (db : DB) : Except Exn ((Nat × Nat) × DB) :=
  processExpiredApprovals now db maxEscalations

/-! ## §4. Rules (`approval_rules.py`). -/

/-- `ApprovalRuleCreate`, with a scope type the endpoint accepts. -/
structure ApprovalRuleCreate where
  name : String
  scopeType : ScopeType
  scopeId : Option String := none
  operations : List String
  requiredApprovers : Int := 1
  escalationTimeoutHours : Int := 72
  escalationRoleId : Option String := none
  isActive : Bool := true
  priority : Int := 0
  deriving DecidableEq, Repr

/-- `create_rule`. -/
def createRule (db : DB) (uuid : String) (data : ApprovalRuleCreate) :
    Except Exn (ApprovalRule × DB) :=
  if db.rules.rows.any (fun r => r.name = data.name) then
    .error (.http 400 "Approval rule name already exists")
  else
    let rule : ApprovalRule :=
      { id := uuid, name := data.name, scopeType := data.scopeType, scopeId := data.scopeId,
        operations := data.operations, requiredApprovers := data.requiredApprovers,
        escalationTimeoutHours := data.escalationTimeoutHours,
        escalationRoleId := data.escalationRoleId, isActive := data.isActive,
        priority := data.priority }
    match db.rules.insert? rule with
    | some rules => .ok (rule, { db with rules })
    | none => .error .integrityError

/-- `ApprovalRuleUpdate`; null leaves a field alone. -/
structure ApprovalRuleUpdate where
  name : Option String := none
  scopeType : Option ScopeType := none
  scopeId : Option String := none
  operations : Option (List String) := none
  requiredApprovers : Option Int := none
  escalationTimeoutHours : Option Int := none
  escalationRoleId : Option String := none
  isActive : Option Bool := none
  priority : Option Int := none
  deriving DecidableEq, Repr

/-- `update_rule`. -/
def updateRule (db : DB) (ruleId : String) (data : ApprovalRuleUpdate) :
    Except Exn (ApprovalRule × DB) :=
  match db.rules.get? ruleId with
  | none => .error (.http 404 "Approval rule not found")
  | some rule =>
      if db.rules.rows.any (fun r => some r.name = data.name ∧ r.id ≠ ruleId) then
        .error (.http 400 "Approval rule name already exists")
      else
        let rule' : ApprovalRule := { rule with
          name := data.name.getD rule.name
          scopeType := data.scopeType.getD rule.scopeType
          -- null does not clear a field: a scope or a role, once set, stays
          scopeId := data.scopeId.or rule.scopeId
          operations := data.operations.getD rule.operations
          requiredApprovers := data.requiredApprovers.getD rule.requiredApprovers
          escalationTimeoutHours := data.escalationTimeoutHours.getD rule.escalationTimeoutHours
          escalationRoleId := data.escalationRoleId.or rule.escalationRoleId
          isActive := data.isActive.getD rule.isActive
          priority := data.priority.getD rule.priority }
        .ok (rule', { db with rules := db.rules.put rule' })

/-- The ORM's clearing of `rule_id` in an approval that refers to a deleted rule. -/
def clearRule (ruleId : String) (a : Approval) : Approval :=
  if a.ruleId = some ruleId then { a with ruleId := none } else a

theorem clearRule_id (ruleId : String) (a : Approval) : (clearRule ruleId a).id = a.id := by
  unfold clearRule
  split <;> rfl

/-- `delete_rule`: the ORM first clears `rule_id` of the approvals that refer to it. -/
def deleteRule (db : DB) (ruleId : String) : Except Exn (Unit × DB) :=
  match db.rules.get? ruleId with
  | none => .error (.http 404 "Approval rule not found")
  | some _ =>
      .ok ((), { rules := db.rules.delete (fun r => r.id = ruleId)
                 approvals := db.approvals.update (clearRule ruleId) (clearRule_id ruleId) })

/-! ## §5. Requests and their execution. -/

/-- The requests that read or write approvals, and the escalation job. -/
inductive Op where
  | createApproval (uuid : String) (data : ApprovalCreate)
  | createApprovalRequest (uuid : String) (rule : ApprovalRule)
      (operationType requesterId requesterName : String)
  | voteOnApproval (approvalId vote : String) (comment userId userName : Option String)
  | approveRequest (approvalId : String) (data : LegacyVoteCreate)
  | rejectRequest (approvalId : String) (data : LegacyVoteCreate)
  | cancelApprovalPost (approvalId : String) (userId : Option String)
  | cancelApprovalDelete (approvalId requesterName : String)
  | getApprovalStats
  | listApprovals (query : ListQuery)
  | processEscalations
  | createRule (uuid : String) (data : ApprovalRuleCreate)
  | updateRule (ruleId : String) (data : ApprovalRuleUpdate)
  | deleteRule (ruleId : String)
  deriving DecidableEq, Repr

/-- An operation and the time its handler reads. -/
structure Request where
  now : Int
  op : Op
  deriving DecidableEq, Repr

/-- One request in its own session (`get_db`): commit on success, roll back on any
exception. -/
def exec (db : DB) (r : Request) : DB :=
  match r.op with
  | .createApproval uuid data => commitOrRollback db (createApproval r.now db uuid data)
  | .createApprovalRequest uuid rule operationType requesterId requesterName =>
      commitOrRollback db
        (createApprovalRequest r.now db uuid rule operationType requesterId requesterName)
  | .voteOnApproval approvalId vote comment userId userName =>
      commitOrRollback db (voteOnApproval r.now db approvalId vote comment userId userName)
  | .approveRequest approvalId data =>
      commitOrRollback db (approveRequest r.now db approvalId data)
  | .rejectRequest approvalId data =>
      commitOrRollback db (rejectRequest r.now db approvalId data)
  | .cancelApprovalPost approvalId userId =>
      commitOrRollback db (cancelApprovalPost r.now db approvalId userId)
  | .cancelApprovalDelete approvalId requesterName =>
      commitOrRollback db (cancelApprovalDelete r.now db approvalId requesterName)
  | .getApprovalStats => commitOrRollback db (getApprovalStats r.now db)
  | .listApprovals query => commitOrRollback db (listApprovals r.now db query)
  | .processEscalations => commitOrRollback db (processEscalations r.now db)
  | .createRule uuid data => commitOrRollback db (createRule db uuid data)
  | .updateRule ruleId data => commitOrRollback db (updateRule db ruleId data)
  | .deleteRule ruleId => commitOrRollback db (deleteRule db ruleId)

end PureBoot.Approvals
