/-
Module: Countersign.Ticket.Basic
Purpose: Trade tickets and the company data that was copied onto them.
Main exports: TicketStatus, Company, Ticket, Ticket.check, Ticket.body, Ticket.value, Ticket.document
-/
import Countersign.Schema.Checked
import Countersign.Value.Dump

namespace Countersign

/-- Where a ticket stands. -/
inductive TicketStatus where
  | draft
  | pending
  | approved
  | rejected
deriving DecidableEq, Repr, Inhabited

namespace TicketStatus

def name : TicketStatus → String
  | draft => "Draft"
  | pending => "Pending Approval"
  | approved => "Approved"
  | rejected => "Rejected"

def choices : List (String × TicketStatus) :=
  [("Draft", draft), ("Pending Approval", pending), ("Approved", approved), ("Rejected", rejected)]

def ofName? (s : String) : Option TicketStatus := choices.lookup s

/-- Whether a ticket may be submitted for approval. -/
def isSubmittable : TicketStatus → Bool
  | draft => true
  | rejected => true
  | _ => false

end TicketStatus

/-- The counterparty as it was when the ticket was registered. What else is known of it is kept in
`others`. -/
structure Company where
  id : Option String
  name : Option String
  kybStatus : Option String
  riskRating : Option String
  others : Fields
deriving Repr

namespace Company

def knownFields : List String := ["company_id", "name", "kyb_status", "risk_rating"]

def check (fields : Fields) : Checked Company :=
  let text (name : String) := fields.optional name none (Reader.nullable Reader.text)
  fields.wholly <|
    Company.mk <$> text "company_id" <*> text "name" <*> text "kyb_status" <*> text "risk_rating"
      <*> .accepted (fields.filter fun (name, _) => !knownFields.contains name)

def value (company : Company) : Value :=
  .record ([("company_id", .ofText? company.id), ("name", .ofText? company.name),
    ("kyb_status", .ofText? company.kybStatus), ("risk_rating", .ofText? company.riskRating)]
      ++ company.others)

end Company

/-- A trade ticket. -/
structure Ticket where
  id : String
  status : TicketStatus
  fields : Fields
  company : Option Company
  createdAt : Moment
  updatedAt : Moment
deriving Repr

namespace Ticket

/-- Read a ticket. Fields that a ticket does not have are passed over. -/
def check (fields : Fields) : Checked Ticket :=
  Ticket.mk
    <$> fields.required "ticket_id" Reader.text
    <*> fields.optional "status" .draft (Reader.choice TicketStatus.choices)
    <*> fields.optional "fields" [] Reader.record
    <*> fields.optional "company" none (Reader.nullable (Reader.model "CompanySnapshot" Company.check))
    <*> fields.required "created_at" Reader.moment
    <*> fields.required "updated_at" Reader.moment

/-- The ticket without its times, its fields and what else is known of the company as they are written. -/
def body (ticket : Ticket) : Fields :=
  [("ticket_id", .text ticket.id), ("status", .text ticket.status.name),
    ("fields", Value.dumped (.record ticket.fields)),
    ("company", match ticket.company with
      | some company => company.value.dumped
      | none => .null)]

/-- Why the ticket cannot be written, if it cannot. -/
def dumpFault? (ticket : Ticket) : Option DumpFault :=
  (Value.dumpFault? ticket.fields).or
    (ticket.company.bind fun company => Value.dumpFault? company.others)

def record (ticket : Ticket) : Fields :=
  ticket.body ++ [("created_at", .moment ticket.createdAt), ("updated_at", .moment ticket.updatedAt)]

/-- The ticket as a record. -/
def value (ticket : Ticket) : Value := .record ticket.record

/-- The ticket as the store keeps it. -/
def document (ticket : Ticket) : Fields := ticket.record ++ [("_id", .text ticket.id)]

end Ticket

end Countersign
