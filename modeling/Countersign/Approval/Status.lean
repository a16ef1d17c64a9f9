/-
Module: Countersign.Approval.Status
Purpose: Decisions of approver roles and the status that a history of them amounts to.
Main exports: Decision, ApprovalStatus, ApprovalStatus.ofHistory, ApprovalStatus.ticketStatus
-/
import Countersign.Ticket.Basic

namespace Countersign

/-!
The status of a request is a function of its required roles and of its history. The history is replayed
in order: the first rejection by a required role decides, and so does the first point at which every
required role has approved. What other roles did does not count.
-/

/-- What an approver role may decide. -/
inductive Decision where
  | approve
  | reject
  | requestChanges
deriving DecidableEq, Repr, Inhabited

namespace Decision

def name : Decision → String
  | approve => "Approve"
  | reject => "Reject"
  | requestChanges => "Request Changes"

def choices : List (String × Decision) :=
  [("Approve", approve), ("Reject", reject), ("Request Changes", requestChanges)]

def ofName? (s : String) : Option Decision := choices.lookup s

end Decision

/-- Where a request for approval stands. -/
inductive ApprovalStatus where
  | pending
  | approved
  | rejected
deriving DecidableEq, Repr, Inhabited

namespace ApprovalStatus

def name : ApprovalStatus → String
  | pending => "Pending Approval"
  | approved => "Approved"
  | rejected => "Rejected"

def all : List ApprovalStatus := [pending, approved, rejected]

def choices : List (String × ApprovalStatus) :=
  [("Pending Approval", pending), ("Approved", approved), ("Rejected", rejected)]

def ofName? (s : String) : Option ApprovalStatus := choices.lookup s

/-- Whether a request in this status is decided. -/
def isTerminal : ApprovalStatus → Bool
  | pending => false
  | approved => true
  | rejected => true

theorem eq_pending_of_not_terminal {status : ApprovalStatus} (open_ : ¬ status.isTerminal = true) :
    status = pending := by
  cases status with
  | pending => rfl
  | approved => exact absurd rfl open_
  | rejected => exact absurd rfl open_

/-- The status that a request gives its ticket. -/
def ticketStatus : ApprovalStatus → TicketStatus
  | pending => .pending
  | approved => .approved
  | rejected => .rejected

/-- Whether every required role is among those that have approved. -/
def covers (approved required : List String) : Bool := required.all approved.contains

/-- Replay a history of roles and decisions, given the required roles that have approved before. -/
def replay (required : List String) (approvedSoFar : List String) :
    List (String × Decision) → ApprovalStatus
  | [] => pending
  | (role, decision) :: rest =>
      if required.contains role then
        match decision with
        | .reject => rejected
        | .approve =>
            if covers (role :: approvedSoFar) required then approved
            else replay required (role :: approvedSoFar) rest
        | .requestChanges => replay required approvedSoFar rest
      else replay required approvedSoFar rest

/-- The status that a history amounts to. -/
def ofHistory (required : List String) (history : List (String × Decision)) : ApprovalStatus :=
  replay required [] history

end ApprovalStatus

end Countersign
