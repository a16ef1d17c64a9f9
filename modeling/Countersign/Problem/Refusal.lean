/-
Module: Countersign.Problem.Refusal
Purpose: Why the service refuses a command, and every other way in which a command may fail.
Main exports: Refusal, Refusal.report, Failure
-/
import Countersign.Problem.Kind
import Countersign.Schema.Fault
import Countersign.Store.Fault
import Countersign.Value.Display
import Countersign.Approval.Status

namespace Countersign

/-- Why a command is refused. The ids, roles and names in it are those that the caller gave, which need
not be texts. -/
inductive Refusal where
  | ruleNameMissing
  | ruleWithoutRoles (name : String)
  | ruleConditions (name : String) (faults : List Fault)
  | ruleWithoutConditions (name : String)
  | ruleDefinition (name : String) (faults : List Fault)
  | ruleFieldsFixed (fields : List String)
  | ruleNameTaken (name : Value) (holder : Option String)
  | ruleMissing (id : Value)
  | ruleUnreadable (id : Value)
  | requestWithoutRoles (ticketId : Value)
  | ticketMissing (id : Value)
  | ticketExists (id : String)
  | ticketApproved (id : Value)
  | ticketNotSubmittable (id : Value) (status : TicketStatus)
  | requestActive (ticketId : String)
  | requestMissing (id : Value)
  | roleNotRequired (requestId role : Value) (required : List String)
  | requestDecided (requestId : Value) (status : ApprovalStatus)
  | roleHasApproved (requestId role : Value)
  | leaseBusy (requestId : Value)
  | leaseLost (requestId : Value)
  | leaseLostRestoring (requestId : Value)
deriving Repr

namespace Refusal

def faultsValue (faults : List Fault) : Value := .list (faults.map Fault.report)

def kind : Refusal → ErrorKind
  | ruleNameMissing | ruleWithoutRoles _ | ruleConditions _ _ | ruleWithoutConditions _
  | ruleDefinition _ _ | ruleFieldsFixed _ => .ruleValidation
  | ruleNameTaken _ _ | ticketExists _ => .alreadyExists
  | ruleMissing _ | ruleUnreadable _ => .ruleNotFound
  | requestWithoutRoles _ => .validation
  | ticketMissing _ => .ticketNotFound
  | ticketApproved _ | ticketNotSubmittable _ _ => .invalidState
  | requestActive _ => .activeRequestExists
  | requestMissing _ => .requestNotFound
  | roleNotRequired _ _ _ => .invalidRole
  | requestDecided _ _ => .alreadyTerminal
  | roleHasApproved _ _ => .duplicateApproval
  | leaseBusy _ | leaseLost _ | leaseLostRestoring _ => .concurrency

def message : Refusal → String
  | ruleNameMissing => "Rule name is required"
  | ruleWithoutRoles _ => "A rule must require at least one approver role"
  | ruleConditions _ _ => "Invalid rule conditions"
  | ruleWithoutConditions _ => "An enabled rule must have at least one condition"
  | ruleDefinition _ _ => "Invalid rule definition"
  | ruleFieldsFixed fields => "Cannot update rule fields: " ++ ", ".intercalate fields
  | ruleNameTaken name _ => s!"An approval rule named '{name.display}' already exists"
  | ruleMissing id => s!"Approval rule {id.display} not found"
  | ruleUnreadable id => s!"Approval rule {id.display} is unreadable after update"
  | requestWithoutRoles _ => "An approval request needs at least one approver role"
  | ticketMissing id => s!"Ticket {id.display} not found"
  | ticketExists id => s!"Ticket {id} already exists"
  | ticketApproved id => s!"Ticket {id.display} is already approved"
  | ticketNotSubmittable _ status =>
      s!"Ticket in status {status.name} cannot be submitted for approval"
  | requestActive ticketId => s!"Ticket {ticketId} already has a pending approval request"
  | requestMissing id => s!"Approval request {id.display} not found"
  | roleNotRequired _ role _ => s!"Role {role.display} is not a required approver of this request"
  | requestDecided _ status => s!"Approval request is already {status.name}"
  | roleHasApproved _ role => s!"Role {role.display} has already approved this request"
  | leaseBusy _ => "Approval request is being updated by another caller. Please retry."
  | leaseLost _ => "Approval request lease expired before the action was committed"
  | leaseLostRestoring _ => "Approval request lease expired during reconciliation"

def details : Refusal → Fields
  | ruleNameMissing => []
  | ruleWithoutRoles name => [("name", .text name)]
  | ruleConditions name faults => [("name", .text name), ("errors", faultsValue faults)]
  | ruleWithoutConditions name => [("name", .text name)]
  | ruleDefinition name faults => [("name", .text name), ("errors", faultsValue faults)]
  | ruleFieldsFixed fields => [("fields", .ofTexts fields)]
  | ruleNameTaken name holder =>
      match holder with
      | some id => [("name", name), ("rule_id", .text id)]
      | none => [("name", name)]
  | ruleMissing _ | ruleUnreadable _ | ticketMissing _ | requestMissing _ => []
  | requestWithoutRoles ticketId => [("ticket_id", ticketId)]
  | ticketExists id => [("ticket_id", .text id)]
  | ticketApproved id => [("ticket_id", id), ("status", .text TicketStatus.approved.name)]
  | ticketNotSubmittable id status => [("ticket_id", id), ("status", .text status.name)]
  | requestActive ticketId => [("ticket_id", .text ticketId)]
  | roleNotRequired requestId role required =>
      [("approval_request_id", requestId), ("approver_role", role),
        ("required_approvers", .ofTexts required)]
  | requestDecided requestId status =>
      [("approval_request_id", requestId), ("status", .text status.name)]
  | roleHasApproved requestId role =>
      [("approval_request_id", requestId), ("approver_role", role)]
  | leaseBusy requestId | leaseLost requestId | leaseLostRestoring requestId =>
      [("approval_request_id", requestId)]

/-- The refusal as it is told to a caller. -/
def report (refusal : Refusal) : ErrorReport :=
  { kind := refusal.kind, message := .text refusal.message, details := .record refusal.details }

end Refusal

/-- How a command may fail. -/
inductive Failure where
  /-- The service refuses the command. -/
  | refused (refusal : Refusal)
  /-- A record does not fit its schema. -/
  | malformed (faults : List Fault)
  /-- A value is not the name of a decision. -/
  | notDecision (given : Value)
  /-- A value is not the name of a status of requests. -/
  | notApprovalStatus (given : Value)
  /-- A value is not the name of a status of tickets. -/
  | notTicketStatus (given : Value)
  /-- A value that has to be a text is not one. -/
  | notText
  /-- A value that has to be a list, or that has to be a name or number, is not one. -/
  | notUsable
  /-- The store cannot be reached. -/
  | storeDown
  /-- The connection to the store broke while the command ran. -/
  | connectionLost
  /-- The store refuses a filter, a document or a change, and the command does not say what that means. -/
  | store (fault : StoreFault)
  /-- A unique key is taken by one of several documents that were inserted together. -/
  | bulkKeyTaken
  /-- A time is beyond the calendar, or a number too large to count with. -/
  | beyondCalendar
  /-- A text in a ticket has no form in bytes. -/
  | notEncodable
  /-- A ticket has values in values beyond the depth that is written. -/
  | tooDeep
deriving Repr

namespace Failure

/-- Whether the store, rather than the command, is to blame. -/
def isStorage : Failure → Bool
  | storeDown | connectionLost | bulkKeyTaken => true
  | store fault => fault.isStorage
  | _ => false

/-- What a failure of the store says. -/
def storageMessage : Failure → String
  | storeDown => "store is down"
  | connectionLost => "connection lost"
  | store fault => fault.message
  | bulkKeyTaken => "batch op errors occurred"
  | _ => ""

end Failure

end Countersign
