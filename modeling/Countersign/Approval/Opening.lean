/-
Module: Countersign.Approval.Opening
Purpose: Opening a request for approval, and telling a ticket of its request's status.
Main exports: Proposal, Approval.splitNames, Approval.tellTicket, Approval.openRequest
-/
import Countersign.Approval.Storage
import Countersign.Ticket.Storage
import Countersign.Rule.Draft
import Countersign.Text.Split

namespace Countersign.Approval

open Service

/-- What a caller sends to open a request. -/
structure Proposal where
  ticketId : Value
  approvers : Value
  ruleTriggered : Value
  roleToRules : Value := .null
deriving Repr

/-- Put a value at the end of a list that does not hold the same yet. -/
def addOnce (values : List Value) (v : Value) : List Value :=
  if values.any (·.same v) then values else values ++ [v]

/-- Whether a value may be told apart from others by its content. -/
def isKey : Value → Bool
  | .list _ => false
  | .record _ => false
  | _ => true

/-- The roles of a proposal: those that are given, each once. -/
def rolesOf (approvers : Value) : Except Failure (List Value) := do
  let given := (← RuleDraft.membersOf approvers).filter Value.truthy
  if given.all isKey then return given.foldl addOnce [] else .error .notUsable

/-- The names that a joined text of rule names has between its separators. -/
def splitNames (joined : String) : List String :=
  (Text.splitBy ruleSeparator joined).filter (!·.isEmpty)

/-- The rules that each role answers for: those that are given, else all that triggered. -/
def rolesToRules (roles : List Value) (proposal : Proposal) : Except Failure Value :=
  match proposal.roleToRules with
  | .null =>
      match proposal.ruleTriggered with
      | .text joined =>
          .ok (.record (roles.foldl
            (fun all role => Fields.put all role.display (.ofTexts (splitNames joined))) []))
      | _ => .error .notText
  | given => .ok given

/-- Fail with the failure of a computation. -/
def settle {α : Type} : Except Failure α → Service α
  | .ok value => return value
  | .error failure => throw failure

/-- Give a ticket the status of its request. A ticket that is gone is noted and passed over. -/
def tellTicket (request : Request) : Service Unit := do
  match ← attempt (TicketStore.setStatus (.text request.ticketId) request.status.ticketStatus) with
  | .ok _ => return
  | .error (.refused (.ticketMissing _)) =>
      note .warning .workflow
        s!"Ticket {request.ticketId} of approval request {request.id} no longer exists"
        [("ticket_id", .text request.ticketId), ("approval_request_id", .text request.id)]
  | .error failure => throw failure

/-- Open a request for a ticket, which becomes pending. -/
def openRequest (proposal : Proposal) : Service Request := do
  let roles ← settle (rolesOf proposal.approvers)
  if roles.isEmpty then refuse (.requestWithoutRoles proposal.ticketId)
  let ticket ← TicketStore.get proposal.ticketId
  if ticket.status = .approved then refuse (.ticketApproved proposal.ticketId)
  let roleToRules ← settle (rolesToRules roles proposal)
  let time ← now
  let id ← newId "APR"
  let request ← accept (Request.check [
    ("approval_request_id", .text id), ("ticket_id", proposal.ticketId),
    ("required_approvers", .list roles), ("rule_triggered", proposal.ruleTriggered),
    ("role_to_rules", roleToRules), ("status", .text ApprovalStatus.pending.name),
    ("version", .int 1), ("created_at", .moment time), ("updated_at", .moment time)])
  let request ← RequestStore.add request
  tellTicket request
  return request

end Countersign.Approval
