/-
Module: Countersign.Ticket.Routing
Purpose: Registering tickets and routing them through the rules of the catalog.
Main exports: Routing.register, Routing.evaluate, Routing.prepare, Routing.finish, Routing.submit
-/
import Countersign.Approval.Opening
import Countersign.Rule.Storage
import Countersign.Ticket.Facts

namespace Countersign.Routing

open Service

/-!
A ticket is submitted in two halves: first the ticket is read and its requirements are found, then the
request is opened, or the ticket approved where no role has to approve. Other commands may run between
the halves.
-/

/-- What a caller sends to register a ticket. -/
structure NewTicket where
  id : Value := .null
  fields : Value
  company : Value := .null
deriving Repr

/-- Store a new ticket as a draft. -/
def register (sent : NewTicket) : Service Ticket := do
  let time ← now
  let id ← if sent.id.truthy then pure sent.id else Value.text <$> newId "TKT"
  let company ←
    if sent.company.truthy then
      some <$> accept (Reader.model "CompanySnapshot" Company.check sent.company)
    else pure none
  let ticket ← accept
    ((fun id fields => Ticket.mk id .draft fields company time time)
      <$> (Reader.text id).under (.field "ticket_id")
      <*> (Reader.record sent.fields).under (.field "fields"))
  TicketStore.add ticket

/-- The facts of a ticket, and a note of how many there are. -/
def factsOf (ticket : Ticket) : Service Fields := do
  let facts := ticket.facts
  note .debug .facts s!"Built {facts.length} facts for ticket {ticket.id}"
    [("ticket_id", .text ticket.id)]
  return facts

/-- Note what was wrong with conditions. -/
def noteComplaints (facts : Fields) : List Condition → Service Unit
  | [] => return
  | condition :: rest => do
      match condition.complaint? facts with
      | some complaint => note .warning .evaluation complaint
      | none => pure ()
      noteComplaints facts rest

/-- Note how the rules fared. -/
def noteMatches (facts : Fields) : List Rule → Service Unit
  | [] => return
  | rule :: rest => do
      if rule.enabled then
        noteComplaints facts rule.conditions
        if rule.triggeredBy facts then
          note .debug .matching s!"Rule matched: {rule.name}" [("rule_id", .text rule.id)]
      noteMatches facts rest

/-- The facts of a ticket and what the rules demand for them. -/
def resolve (ticket : Ticket) : Service (Fields × Requirements) := do
  let facts ← factsOf ticket
  let rules ← RuleStore.list true
  noteMatches facts (Rule.ordered rules)
  return (facts, Requirements.ofRules (Rule.matching rules facts))

/-- What a ticket would need, without changing anything. -/
structure Evaluation where
  ticketId : String
  facts : Fields
  requirements : Requirements
deriving Repr

def Evaluation.value (evaluation : Evaluation) : Value :=
  .record [("ticket_id", .text evaluation.ticketId), ("facts", .record evaluation.facts),
    ("requires_approval", .bool evaluation.requirements.requiresApproval),
    ("requirements", evaluation.requirements.value)]

/-- Find out what a ticket would need. -/
def evaluate (id : Value) : Service Evaluation := do
  let ticket ← TicketStore.get id
  let (facts, requirements) ← resolve ticket
  return ⟨ticket.id, facts, requirements⟩

/-- Read a ticket that is to be submitted, and find out what it needs. -/
def prepare (id : Value) : Service Requirements := do
  let ticket ← TicketStore.get id
  if !ticket.status.isSubmittable then refuse (.ticketNotSubmittable id ticket.status)
  return (← resolve ticket).2

/-- What came of the submission of a ticket. -/
structure Outcome where
  ticket : Ticket
  request : Option Request
  requirements : Requirements
deriving Repr

def Outcome.value (outcome : Outcome) : Value :=
  .record [("ticket", outcome.ticket.value),
    ("approval_request", match outcome.request with
      | some request => request.value
      | none => .null),
    ("requirements", outcome.requirements.value)]

/-- The request that requirements ask for. -/
def proposal (id : Value) (requirements : Requirements) : Approval.Proposal :=
  { ticketId := id, approvers := .ofTexts requirements.approvers
    ruleTriggered := .text requirements.ruleTriggered
    roleToRules := Requirements.namesValue requirements.roleToRules }

/-- Open the request that the requirements ask for, or approve the ticket. -/
def finish (id : Value) (requirements : Requirements) : Service Outcome := do
  let request ←
    if requirements.requiresApproval then
      some <$> Approval.openRequest (proposal id requirements)
    else
      let _ ← TicketStore.setStatus id .approved
      note .info .routing s!"Ticket {id.display} matched no approval rules, approved directly"
        [("ticket_id", id), ("status", .text TicketStatus.approved.name)]
      pure none
  return ⟨← TicketStore.get id, request, requirements⟩

/-- Submit a ticket for approval. -/
def submit (id : Value) : Service Outcome := do finish id (← prepare id)

end Countersign.Routing
