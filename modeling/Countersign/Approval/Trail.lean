/-
Module: Countersign.Approval.Trail
Purpose: The trail of actions in the store, to which actions are only ever added.
Main exports: Trail.append, Trail.record, Trail.listFor
-/
import Countersign.Service.Basic
import Countersign.Approval.Request

namespace Countersign.Trail

open Service

/-- Add an action. Its key is taken only when the role has approved the request before. -/
def append (action : Action) : Service Action := do
  if ← insert .actions action.document then
    note .info .trailStore s!"Recorded approval action: {action.decision.name}"
      [("approval_request_id", .text action.requestId), ("approver_role", .text action.role),
        ("action", .text action.decision.name)]
    return action
  else refuse (.roleHasApproved (.text action.requestId) (.text action.role))

/-- Add a new action of a role. What it is made of is checked first. -/
def record (requestId role : Value) (decision : Decision) (sequence comment : Value) :
    Service Action := do
  let time ← now
  let id ← newId "ACT"
  let action ← accept (Action.check [
    ("action_id", .text id), ("approval_request_id", requestId), ("approver_role", role),
    ("action", .text decision.name), ("comment", comment), ("sequence", sequence),
    ("idempotency_key", .text (Action.keyOf requestId.display role.display decision id)),
    ("created_at", .moment time)])
  append action

/-- The actions among documents. -/
def readAll : List Document → Service (List Action)
  | [] => return []
  | document :: rest => do
      let action ← accept (Action.check document)
      return action :: (← readAll rest)

/-- The actions on a request in the order of their places, then of their times. -/
def listFor (requestId : Value) : Service (List Action) := do
  readAll (← select .actions (Query.field "approval_request_id" requestId)
    [⟨"sequence", false⟩, ⟨"created_at", false⟩])

end Countersign.Trail
