/-
Module: Countersign.Proofs.Commands.Parts
Purpose: The parts of registering a ticket and of opening a request, cut where the store is written.
Main exports: Routing.draft, Routing.register_eq, Approval.vet, Approval.enter, Approval.openRequest_eq,
  Approval.openedAs_of_check
-/
import Countersign.Proofs.Commands.Asking
import Countersign.Proofs.Schema.Reading

namespace Countersign

open Service

/-!
Both commands first find out what to store, and whether to, and only then write. What a command does is told of each
part alone, and of the command by putting its parts together.
-/

namespace Service

/-- What follows a choice follows either of its sides. -/
theorem ite_bind {α β : Type} {condition : Prop} [Decidable condition] (yes no : Service α) (next : α → Service β) :
    (if condition then yes else no) >>= next = if condition then yes >>= next else no >>= next :=
  apply_ite (· >>= next) ..

end Service

namespace Routing

/-! ### Registering a ticket -/

/-- The id of a new ticket: the one that was sent, or else a new one. -/
def idFor (sent : NewTicket) : Service Value :=
  if sent.id.truthy then pure sent.id else Value.text <$> newId "TKT"

/-- The company of a new ticket, if one was sent. -/
def companyOf (sent : NewTicket) : Service (Option Company) :=
  if sent.company.truthy then some <$> accept (Reader.model "CompanySnapshot" Company.check sent.company) else pure none

/-- The draft that is stored when a ticket is registered. -/
def draft (sent : NewTicket) : Service Ticket := do
  let time ← now
  let id ← idFor sent
  let company ← companyOf sent
  accept
    ((fun id fields => Ticket.mk id .draft fields company time time)
      <$> (Reader.text id).under (.field "ticket_id")
      <*> (Reader.record sent.fields).under (.field "fields"))

theorem register_eq (sent : NewTicket) : register sent = draft sent >>= TicketStore.add := by
  unfold register draft idFor companyOf
  simp only [bind_assoc, ite_bind]

theorem draft_asks (sent : NewTicket) : Asks (draft sent) :=
  .bind .now fun _ => .bind (.ite .pure (.map .newId)) fun _ => .bind (.ite (.map .accept) .pure) fun _ => .accept

end Routing

namespace Approval

/-! ### Opening a request -/

/-- What was computed apart from the store changes nothing. -/
theorem exec_settle {α : Type} {s : ServiceState} (outcome : Except Failure α) :
    exec (settle outcome) s = (outcome, s) := by
  cases outcome <;> rfl

/-- What a request says that was made for a proposal. -/
structure OpenedAs (proposal : Proposal) (id : String) (request : Request) : Prop where
  id : request.id = id
  ticketId : proposal.ticketId = .text request.ticketId
  approved : request.approvers ≠ []
  pending : request.status = .pending
  version : request.version = 1
  undecided : request.decidedAt = none

/-- The fields of a new request, as they are checked. -/
def requested (proposal : Proposal) (roles : List Value) (roleToRules : Value) (id : String) (time : Moment) : Fields :=
  [("approval_request_id", .text id), ("ticket_id", proposal.ticketId),
    ("required_approvers", .list roles), ("rule_triggered", proposal.ruleTriggered),
    ("role_to_rules", roleToRules), ("status", .text ApprovalStatus.pending.name),
    ("version", .int 1), ("created_at", .moment time), ("updated_at", .moment time)]

/-- A request that the schema takes is pending, is for the ticket, and nobody has decided it. -/
theorem openedAs_of_check {proposal : Proposal} {roles : List Value} {roleToRules : Value} {id : String}
    {time : Moment} {request : Request}
    (checked : Request.check (requested proposal roles roleToRules id time) = .accepted request) :
    OpenedAs proposal id request := by
  obtain ⟨named, ticketId, approvers, -, -, status, version, -, -, decidedAt⟩ :=
    Request.check_eq_accepted_iff.1 checked
  refine ⟨?_, ?_, ?_, ?_, ?_, (Checked.accepted.inj decidedAt).symm⟩
  · simpa [requested] using (Fields.required_text_iff.1 named).symm
  · simpa [requested] using Fields.required_text_iff.1 ticketId
  · obtain ⟨v, -, read⟩ := Fields.required_eq_accepted_iff.1 approvers
    exact Reader.ne_nil_of_someItems read
  · have read : Reader.choice ApprovalStatus.choices (.text ApprovalStatus.pending.name) =
        .accepted request.status := (Fields.optional_of_get? (by simp [requested])).1 status
    rw [Reader.choice_status] at read
    exact (Checked.accepted.inj read).symm
  · have read : Reader.int (.int 1) = .accepted request.version :=
      (Fields.optional_of_get? (by simp [requested])).1 version
    exact (Checked.accepted.inj read).symm

/-- Check what a proposal asks for: it names roles, and its ticket is there and not approved. -/
def vet (proposal : Proposal) : Service (List Value) := do
  let roles ← settle (rolesOf proposal.approvers)
  if roles.isEmpty then refuse (.requestWithoutRoles proposal.ticketId)
  let ticket ← TicketStore.get proposal.ticketId
  if ticket.status = .approved then refuse (.ticketApproved proposal.ticketId)
  return roles

/-- Store the request that a proposal asks of some roles. -/
def enter (proposal : Proposal) (roles : List Value) : Service Request := do
  let roleToRules ← settle (rolesToRules roles proposal)
  let time ← now
  let id ← newId "APR"
  RequestStore.add (← accept (Request.check (requested proposal roles roleToRules id time)))

/-- A request is opened in three parts: it is checked what is asked for, the request is stored, and its ticket is told
so. -/
theorem openRequest_eq (proposal : Proposal) : openRequest proposal = do
    let request ← enter proposal (← vet proposal)
    tellTicket request
    return request := by
  unfold openRequest vet enter
  simp only [bind_assoc, pure_bind, ite_bind]
  rfl

theorem vet_asks (proposal : Proposal) : Asks (vet proposal) := by
  refine .bind (settle_asks _) fun roles => ?_
  have known : Asks (do
      let ticket ← TicketStore.get proposal.ticketId
      if ticket.status = .approved then refuse (.ticketApproved proposal.ticketId)
      return roles) :=
    .bind (TicketStore.get_asks _) fun ticket => .ite (.bind .refuse fun _ => .pure) .pure
  exact .ite (.bind .refuse fun _ => known) known

end Approval

end Countersign
