/-
Module: Countersign.Proofs.Commands.Failing
Purpose: Registering a ticket, opening a request and submitting a ticket leave the store as it was where they fail.
Main exports: Service.AllOrNothing, Routing.register_allOrNothing, Approval.openRequest_allOrNothing,
  Routing.submit_allOrNothing
-/
import Countersign.Proofs.Commands.Changes
import Countersign.Proofs.Ledger.Submitting

namespace Countersign

open Service

/-!
A command may fail before it writes, while it writes and after it has written. What it asks before is no harm. A write
that fails leaves a ledger's documents as they were. What is left is to see that nothing fails afterwards: the ticket
that was written is found again, whatever it was looked for by.
-/

namespace Service

variable {α β : Type} {s : ServiceState}

/-- A part of a command that leaves the store as it was in a state where it fails. -/
def AllOrNothing (part : Service α) (s : ServiceState) : Prop :=
  ∀ failure s', exec part s = (.error failure, s') → s'.store = s.store

namespace AllOrNothing

/-- What asks first may go on with what leaves the store as it found it. -/
theorem asks_bind {part : Service α} {next : α → Service β} (asks : Asks part)
    (others : ∀ a s', exec part s = (.ok a, s') → AllOrNothing (next a) s') : AllOrNothing (part >>= next) s := by
  intro failure s' ran
  have still := (asks s).store
  rw [exec_bind] at ran
  cases first : exec part s with
  | mk outcome between =>
      rw [first] at ran still
      cases outcome with
      | ok a => exact (others a between first failure s' ran).trans still
      | error other =>
          cases ran
          exact still

/-- What cannot fail may follow. -/
theorem bind_ok {part : Service α} {next : α → Service β} (first : AllOrNothing part s)
    (others : ∀ a s', exec part s = (.ok a, s') → ∃ b s'', exec (next a) s' = (.ok b, s'')) :
    AllOrNothing (part >>= next) s := by
  intro failure s' ran
  rw [exec_bind] at ran
  cases began : exec part s with
  | mk outcome between =>
      rw [began] at ran
      cases outcome with
      | ok a =>
          obtain ⟨b, s'', done⟩ := others a between began
          cases done.symm.trans ran
      | error other =>
          cases ran
          exact first _ _ began

/-- An answer may be made of what a part gave. -/
theorem bind_answer {part : Service α} (first : AllOrNothing part s) (write : α → β) :
    AllOrNothing (part >>= fun a => pure (write a)) s :=
  first.bind_ok fun a s' _ => ⟨write a, s', rfl⟩

end AllOrNothing

end Service

variable {ledger : Ledger} {s : ServiceState}

/-- A ticket is stored as a whole. -/
theorem Routing.register_allOrNothing (shown : ledger.ShownBy s.store) (sent : NewTicket) :
    AllOrNothing (register sent) s := by
  rw [register_eq]
  refine .asks_bind (draft_asks sent) fun ticket s' ran failure after failed => ?_
  have still : ledger.ShownBy s'.store := by
    have same := (draft_asks sent s).store
    rw [ran] at same
    rwa [same]
  rcases TicketStore.exec_add_cases still (of_exec_draft ran).2.1 with ⟨other, refused, -⟩ | ⟨table, journal, added, -⟩
  · cases refused.symm.trans failed
    rfl
  · cases added.symm.trans failed

/-- A request that cannot be opened leaves nothing behind but the number of its id. -/
theorem Approval.openRequest_allOrNothing (shown : ledger.ShownBy s.store) (proposal : Proposal) :
    AllOrNothing (openRequest proposal) s := by
  intro failure s' ran
  have opening := exec_openRequest_opening shown proposal
  rw [ran] at opening
  cases opening <;> rfl

namespace Routing

variable {mark : TicketMark} {document : Document}

/-- A ticket that is found is approved, or has a request opened for it, and is then found again. -/
theorem finish_allOrNothing (up : s.down = false) (shown : ledger.ShownBy s.store) {id : Value}
    (first : ledger.FirstTicket s.store (TicketStore.withId id) mark document) (requirements : Requirements) :
    AllOrNothing (finish id requirements) s := by
  by_cases needed : requirements.requiresApproval = true
  · have opened : AllOrNothing (some <$> Approval.openRequest (proposal id requirements)) s := by
      rw [← bind_pure_comp]
      exact (Approval.openRequest_allOrNothing shown _).bind_answer _
    rw [finish, if_pos needed]
    refine opened.bind_ok fun request s' ran => ?_
    have opening := Approval.exec_openRequest_opening shown (proposal id requirements)
    rw [exec_map] at ran
    generalize exec (Approval.openRequest (proposal id requirements)) s = ended at opening ran
    cases opening with
    | failed failure => cases ran
    | spent failure => cases ran
    | opened given journal admits shows about =>
        cases ran
        obtain ⟨told, member, named, -⟩ := admits.ticket
        rw [← named] at shows
        have id : id = .text told.id := about.trans (congrArg Value.text named.symm)
        obtain ⟨pending, got, -⟩ := exec_get_told (s := { s.afterNew "APR" with store := _, journal }) up shows member
        exact ⟨_, _, id ▸ exec_bind_ok got _⟩
  · rw [finish, if_neg needed]
    obtain ⟨ticket, tickets, early, told, -, after, ⟨again⟩⟩ :=
      TicketStore.exec_setStatus_told up shown first .approved
    obtain ⟨journal, noted⟩ := exec_note .info .routing
      s!"Ticket {id.display} matched no approval rules, approved directly"
      [("ticket_id", id), ("status", .text TicketStatus.approved.name)] false
      { s with store := s.store.setTable .tickets tickets, journal := early }
    obtain ⟨approved, -, got⟩ := TicketStore.exec_get_first
      (s := { s with store := s.store.setTable .tickets tickets, journal }) up again
    intro failure s' ran
    rw [exec_bind_ok told, exec_bind_ok noted] at ran
    cases (exec_bind_ok got _).symm.trans ran

/-- Submitting a ticket does all of it or nothing. -/
theorem submit_allOrNothing (shown : ledger.ShownBy s.store) (id : Value) : AllOrNothing (submit id) s := by
  refine .asks_bind (prepare_asks id) fun requirements s' ran => ?_
  have prepared := prepare_asks id s
  rw [ran] at prepared
  obtain ⟨up, mark, document, ⟨first⟩, -⟩ := of_exec_prepare shown ran
  obtain ⟨first⟩ := firstTicket_congr first (congrArg Store.tickets prepared.store)
  exact finish_allOrNothing (prepared.down.trans up) (prepared.store ▸ shown) first requirements

end Routing

end Countersign
