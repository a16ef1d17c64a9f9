/-
Module: Countersign.Ticket.Storage
Purpose: The tickets in the store.
Main exports: TicketStore.add, TicketStore.get, TicketStore.setStatus
-/
import Countersign.Service.Basic
import Countersign.Ticket.Basic

namespace Countersign.TicketStore

open Service

def withId (id : Value) : Query := Query.field "ticket_id" id

/-- Make sure that a ticket can be written. -/
def ensureWritable (ticket : Ticket) : Service Unit :=
  match ticket.dumpFault? with
  | some .notEncodable => throw .notEncodable
  | some .tooDeep => throw .tooDeep
  | none => return

/-- Add a ticket. -/
def add (ticket : Ticket) : Service Ticket := do
  ensureWritable ticket
  if ← insert .tickets ticket.document then
    note .info .ticketStore s!"Created ticket: {ticket.id}" [("ticket_id", .text ticket.id)]
    return ticket
  else refuse (.ticketExists ticket.id)

def get (id : Value) : Service Ticket := do
  match ← findOne .tickets (withId id) with
  | some document => accept (Ticket.check document)
  | none => refuse (.ticketMissing id)

/-- Give a ticket another status. -/
def setStatus (id : Value) (status : TicketStatus) : Service Ticket := do
  let time ← now
  let change := Change.setAll [("status", .text status.name), ("updated_at", .moment time)]
  match ← update .tickets (withId id) change with
  | none => refuse (.ticketMissing id)
  | some document =>
      note .info .ticketStore s!"Ticket {id.display} is now {status.name}"
        [("ticket_id", id), ("status", .text status.name)]
      accept (Ticket.check document)

end Countersign.TicketStore
