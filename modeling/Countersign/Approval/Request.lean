/-
Module: Countersign.Approval.Request
Purpose: Requests for approval, the actions taken on them, and views that combine the two.
Main exports: Request, Action, Action.keyOf, ActionResult, Progress, Progress.ofHistory
-/
import Countersign.Approval.Status
import Countersign.Rule.Requirements

namespace Countersign

/-- A request for the approval of one ticket by several roles. -/
structure Request where
  id : String
  ticketId : String
  approvers : List String
  ruleTriggered : String
  roleToRules : List (String × List String)
  status : ApprovalStatus
  version : Int
  createdAt : Moment
  updatedAt : Moment
  decidedAt : Option Moment
deriving DecidableEq, Repr

namespace Request

/-- Read a request. What else a stored request carries is passed over. -/
def check (fields : Fields) : Checked Request :=
  Request.mk
    <$> fields.required "approval_request_id" Reader.text
    <*> fields.required "ticket_id" Reader.text
    <*> fields.required "required_approvers" (Reader.someItems Reader.text)
    <*> fields.required "rule_triggered" Reader.text
    <*> fields.optional "role_to_rules" [] (Reader.entries Reader.texts)
    <*> fields.optional "status" .pending (Reader.choice ApprovalStatus.choices)
    <*> fields.optional "version" 1 Reader.int
    <*> fields.required "created_at" Reader.moment
    <*> fields.required "updated_at" Reader.moment
    <*> fields.optional "decided_at" none (Reader.nullable Reader.moment)

def fields (request : Request) : Fields :=
  [("approval_request_id", .text request.id), ("ticket_id", .text request.ticketId),
    ("required_approvers", .ofTexts request.approvers),
    ("rule_triggered", .text request.ruleTriggered),
    ("role_to_rules", Requirements.namesValue request.roleToRules),
    ("status", .text request.status.name), ("version", .int request.version),
    ("created_at", .moment request.createdAt), ("updated_at", .moment request.updatedAt),
    ("decided_at", match request.decidedAt with
      | some decided => .moment decided
      | none => .null)]

def value (request : Request) : Value := .record request.fields

/-- What no two stored requests share: the ticket while the request is pending, and the request itself
once it is decided. So a ticket has at most one pending request. -/
def activeKey (ticketId requestId : String) (status : ApprovalStatus) : String :=
  if status.isTerminal then requestId else ticketId

/-- The request as the store keeps it, with nobody holding a lease on it. -/
def document (request : Request) : Fields :=
  request.fields ++ [("_id", .text request.id),
    ("active_key", .text (activeKey request.ticketId request.id request.status)),
    ("locked_by", .null), ("lock_expires_at", .null)]

end Request

/-- What one role did on a request. -/
structure Action where
  id : String
  requestId : String
  role : String
  decision : Decision
  comment : Option String
  sequence : Int
  key : String
  createdAt : Moment
deriving DecidableEq, Repr

namespace Action

/-- The key of an action, which no two stored actions share. All approvals of one role on one request
have the same key, every other action has one of its own. -/
def keyOf (requestId role : String) (decision : Decision) (actionId : String) : String :=
  let shared := requestId ++ ":" ++ role ++ ":" ++ decision.name
  match decision with
  | .approve => shared
  | _ => shared ++ ":" ++ actionId

def check (fields : Fields) : Checked Action :=
  Action.mk
    <$> fields.required "action_id" Reader.text
    <*> fields.required "approval_request_id" Reader.text
    <*> fields.required "approver_role" Reader.text
    <*> fields.required "action" (Reader.choice Decision.choices)
    <*> fields.optional "comment" none (Reader.nullable Reader.text)
    <*> fields.required "sequence" (Reader.boundedInt 1 none)
    <*> fields.required "idempotency_key" Reader.text
    <*> fields.required "created_at" Reader.moment

def fields (action : Action) : Fields :=
  [("action_id", .text action.id), ("approval_request_id", .text action.requestId),
    ("approver_role", .text action.role), ("action", .text action.decision.name),
    ("comment", .ofText? action.comment), ("sequence", .int action.sequence),
    ("idempotency_key", .text action.key), ("created_at", .moment action.createdAt)]

def value (action : Action) : Value := .record action.fields

def document (action : Action) : Fields := action.fields ++ [("_id", .text action.id)]

/-- The role and the decision of an action. -/
def step (action : Action) : String × Decision := (action.role, action.decision)

end Action

/-- The status that a history of actions amounts to. -/
def ApprovalStatus.ofActions (required : List String) (actions : List Action) : ApprovalStatus :=
  ofHistory required (actions.map Action.step)

/-- What came of one action. -/
structure ActionResult where
  request : Request
  action : Action
  previousStatus : ApprovalStatus
deriving DecidableEq, Repr

namespace ActionResult

def check (fields : Fields) : Checked ActionResult :=
  ActionResult.mk
    <$> fields.required "request" (Reader.model "ApprovalRequest" Request.check)
    <*> fields.required "action" (Reader.model "ApprovalAction" Action.check)
    <*> fields.required "previous_status" (Reader.choice ApprovalStatus.choices)

/-- Whether the action moved the request to another status. -/
def statusChanged (result : ActionResult) : Bool := result.request.status != result.previousStatus

def value (result : ActionResult) : Value :=
  .record [("request", result.request.value), ("action", result.action.value),
    ("previous_status", .text result.previousStatus.name)]

end ActionResult

/-- A request with its history and with the roles that have and have not approved. -/
structure Progress where
  request : Request
  actions : List Action
  approved : List String
  pending : List String
deriving DecidableEq, Repr

namespace Progress

def check (fields : Fields) : Checked Progress :=
  Progress.mk
    <$> fields.required "request" (Reader.model "ApprovalRequest" Request.check)
    <*> fields.optional "actions" [] (Reader.items (Reader.model "ApprovalAction" Action.check))
    <*> fields.optional "approved_roles" [] Reader.texts
    <*> fields.optional "pending_roles" [] Reader.texts

/-- Whether a role has approved in a history. -/
def hasApproved (actions : List Action) (role : String) : Bool :=
  actions.any fun action => action.role == role && action.decision == .approve

/-- The progress of a request with a history. -/
def ofHistory (request : Request) (actions : List Action) : Progress :=
  { request, actions
    approved := request.approvers.filter (hasApproved actions)
    pending := request.approvers.filter (!hasApproved actions ·) }

def value (progress : Progress) : Value :=
  .record [("request", progress.request.value),
    ("actions", .list (progress.actions.map Action.value)),
    ("approved_roles", .ofTexts progress.approved), ("pending_roles", .ofTexts progress.pending)]

/-- The progress without the history. -/
def summary (progress : Progress) : Value :=
  .record [("approval_request_id", .text progress.request.id),
    ("ticket_id", .text progress.request.ticketId),
    ("status", .text progress.request.status.name),
    ("required_approvers", .ofTexts progress.request.approvers),
    ("approved_roles", .ofTexts progress.approved), ("pending_roles", .ofTexts progress.pending),
    ("version", .int progress.request.version)]

end Progress

end Countersign
