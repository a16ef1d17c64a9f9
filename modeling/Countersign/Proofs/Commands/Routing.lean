/-
Module: Countersign.Proofs.Commands.Routing
Purpose: What registering tickets, opening requests and submitting tickets keep.
Main exports: Service.KeptByRouting, Routing.register_keeps, Approval.openRequest_keeps, Routing.submit_keeps
-/
import Countersign.Proofs.Commands.Parts

namespace Countersign

open Service

/-!
Who registers and submits tickets does two things to the store: to write the table of tickets, and to insert a
request with the number that was just taken. What these two keep is kept by all of these commands, whatever else
they ask and wherever they fail.
-/

namespace Service

/-- What holds after the table of tickets was written and after a request was inserted whose number was taken,
where it held before. -/
structure KeptByRouting (kept : ServiceState → Prop) : Prop where
  asks : ∀ {α : Type} {part : Service α}, Asks part → Keeps kept part
  tickets : ∀ {table : Table}, Keeps kept (write .tickets table)
  request : ∀ {s : ServiceState} {request : Request} {number : Nat},
    request.id = idText "APR" number → number ≤ s.taken "APR" →
      kept s → kept (exec (insert .requests request.document) s).2

variable {kept : ServiceState → Prop}

namespace KeptByRouting

/-- Routing may write the table of tickets in every way. -/
theorem writesTickets (routing : KeptByRouting kept) : KeptByWriting kept .tickets := ⟨routing.asks, routing.tickets⟩

end KeptByRouting

end Service

variable {kept : ServiceState → Prop}

namespace TicketStore

theorem add_keeps (routing : KeptByRouting kept) (ticket : Ticket) : Keeps kept (add ticket) := by
  have writable : Keeps kept (ensureWritable ticket) := by
    unfold ensureWritable
    split
    · exact .throw
    · exact .throw
    · exact .pure
  exact .bind writable fun _ => .bind routing.writesTickets.insert fun _ =>
    .ite (.bind (routing.asks .note) fun _ => .pure) .throw

theorem setStatus_keeps (routing : KeptByRouting kept) (id : Value) (status : TicketStatus) :
    Keeps kept (setStatus id status) := by
  refine .bind (routing.asks .now) fun time => .bind routing.writesTickets.update fun found => ?_
  cases found with
  | none => exact .throw
  | some document => exact .bind (routing.asks .note) fun _ => routing.asks .accept

end TicketStore

namespace Approval

theorem tellTicket_keeps (routing : KeptByRouting kept) (request : Request) : Keeps kept (tellTicket request) := by
  refine .bind (.attempt (TicketStore.setStatus_keeps routing _ _)) fun outcome => ?_
  split
  · exact .pure
  · exact routing.asks .note
  · exact .throw

/-- A request whose number was taken may be added. -/
theorem add_keeps (routing : KeptByRouting kept) {s : ServiceState} {request : Request} {number : Nat}
    (named : request.id = idText "APR" number) (few : number ≤ s.taken "APR") (before : kept s) :
    kept (exec (RequestStore.add request) s).2 :=
  Keeps.after_bind (routing.request named few before) fun _ =>
    .ite (.bind (routing.asks .note) fun _ => .pure) .throw

/-- The request that is stored has the number that was just taken. -/
theorem enter_keeps (routing : KeptByRouting kept) (proposal : Proposal) (roles : List Value) :
    Keeps kept (enter proposal roles) := by
  refine .bind (routing.asks (settle_asks _)) fun roleToRules => .bind (routing.asks .now) fun time => ?_
  intro s before
  have later : kept (s.afterNew "APR") := routing.asks .newId s before
  have few : s.taken "APR" + 1 ≤ (s.afterNew "APR").taken "APR" :=
    Nat.le_of_eq (by rw [ServiceState.taken_afterNew, if_pos rfl])
  rw [exec_bind_ok (exec_newId "APR" s)]
  cases checked : Request.check (requested proposal roles roleToRules (idText "APR" (s.taken "APR" + 1)) time) with
  | refused faults => exact later
  | accepted request =>
      rw [exec_bind_ok (exec_accept_accepted request _)]
      exact add_keeps routing (openedAs_of_check checked).id few later

theorem openRequest_keeps (routing : KeptByRouting kept) (proposal : Proposal) :
    Keeps kept (openRequest proposal) := by
  rw [openRequest_eq]
  exact .bind (routing.asks (vet_asks proposal)) fun roles => .bind (enter_keeps routing proposal roles) fun request =>
    .bind (tellTicket_keeps routing request) fun _ => .pure

end Approval

namespace Routing

theorem register_keeps (routing : KeptByRouting kept) (sent : NewTicket) : Keeps kept (register sent) := by
  rw [register_eq]
  exact .bind (routing.asks (draft_asks sent)) fun ticket => TicketStore.add_keeps routing ticket

theorem submit_keeps (routing : KeptByRouting kept) (id : Value) : Keeps kept (submit id) := by
  refine .bind (routing.asks (prepare_asks id)) fun requirements => ?_
  have answer (request : Option Request) : Keeps kept (do
      return (⟨← TicketStore.get id, request, requirements⟩ : Outcome)) :=
    routing.asks (.bind (TicketStore.get_asks id) fun _ => .pure)
  exact .ite (.bind (.map (Approval.openRequest_keeps routing _)) answer)
    (.bind (TicketStore.setStatus_keeps routing id .approved) fun _ => .bind (routing.asks .note) fun _ =>
      .bind .pure answer)

end Routing

end Countersign
