/-
Module: Countersign.Proofs.Commands.Changes
Purpose: What a command that is no submission may do to the ledger.
Main exports: Ledger.Commanded, Service.Commands, Approval.openRequest_commands,
  Routing.of_exec_draft, Routing.register_commands, Routing.submit_commands
-/
import Countersign.Proofs.Commands.Aside
import Countersign.Proofs.Ledger.Opening

namespace Countersign

open Service

/-!
There are three things that commands do to the ledger: a ticket is registered as a draft, a request is opened
and its ticket told so, and a ticket that may be submitted is approved where no role has to approve. All other
commands leave the ledger as it is, and so do those of these that fail before they come to it.
-/

/-- What one command may make of a ledger. -/
inductive Ledger.Commanded (ledger : Ledger) : Ledger → Prop where
  | nothing : Commanded ledger ledger
  | registered (mark : TicketMark) (draft : mark.status = .draft)
      (fresh : ∀ other ∈ ledger.tickets, other.id ≠ mark.id) :
      Commanded ledger (ledger.register mark)
  | opened (request : Request) (admits : ledger.Admits request) :
      Commanded ledger ((ledger.enter request).tell request.ticketId .pending)
  | approved (mark : TicketMark) (member : mark ∈ ledger.tickets)
      (submittable : mark.status.isSubmittable = true) :
      Commanded ledger (ledger.tell mark.id .approved)

namespace Service

variable {α β : Type}

/-- What a part of a command leaves behind when its store showed a ledger before. -/
structure Leaves (s : ServiceState) (ledger : Ledger) (s' : ServiceState) : Prop where
  commanded : ∃ after, after.ShownBy s'.store ∧ ledger.Commanded after
  down : s'.down = s.down
  taken : ∀ kind, s.taken kind ≤ s'.taken kind

/-- A part of a command that does at most one of the things that commands do to the ledger. -/
def Commands (part : Service α) : Prop :=
  ∀ s ledger, ledger.ShownBy s.store → Leaves s ledger (exec part s).2

namespace Leaves

variable {s s' s'' : ServiceState} {ledger : Ledger}

theorem of_shown {after : Ledger} (shows : after.ShownBy s'.store) (commanded : ledger.Commanded after)
    (down : s'.down = s.down) (taken : ∀ kind, s.taken kind ≤ s'.taken kind) : Leaves s ledger s' :=
  ⟨⟨after, shows, commanded⟩, down, taken⟩

/-- What is left alone afterwards does not matter. -/
theorem then_aside (first : Leaves s ledger s') (second : Aside s' s'') : Leaves s ledger s'' := by
  obtain ⟨⟨after, shows, commanded⟩, down, taken⟩ := first
  refine ⟨⟨after, shows.congr second.requests second.actions second.tickets, commanded⟩,
    second.down.trans down, fun kind => Nat.le_trans (taken kind) (second.taken kind)⟩

/-- Nor what was left alone before. -/
theorem after_aside (first : Aside s s') (second : Leaves s' ledger s'') : Leaves s ledger s'' :=
  ⟨second.commanded, second.down.trans first.down,
    fun kind => Nat.le_trans (first.taken kind) (second.taken kind)⟩

theorem bind_aside {part : Service α} {next : α → Service β} (first : Leaves s ledger (exec part s).2)
    (second : ∀ a, IsAside (next a)) : Leaves s ledger (exec (part >>= next) s).2 := by
  rw [exec_bind]
  cases ran : exec part s with
  | mk outcome s' =>
      rw [ran] at first
      cases outcome with
      | ok a => exact first.then_aside (second a s')
      | error failure => exact first

end Leaves

namespace Commands

theorem of_aside {part : Service α} (aside : IsAside part) : Commands part := by
  intro s ledger shown
  have left := aside s
  exact ⟨⟨ledger, shown.congr left.requests left.actions left.tickets, .nothing⟩, left.down, left.taken⟩

theorem bind_aside {part : Service α} {next : α → Service β} (first : Commands part)
    (second : ∀ a, IsAside (next a)) : Commands (part >>= next) :=
  fun s ledger shown => (first s ledger shown).bind_aside second

end Commands

end Service

namespace TicketStore

/-- Adding a draft registers it. -/
theorem add_commands {ticket : Ticket} (draft : ticket.status = .draft)
    (whole : ∀ company, ticket.company = some company → company.IsWhole) : Commands (add ticket) := by
  intro s ledger shown
  rcases exec_add_cases shown whole with
    ⟨failure, failed, -⟩ | ⟨table, journal, added, fresh, shows⟩
  · rw [failed]
    exact .of_shown shown .nothing rfl fun _ => Nat.le_refl _
  · rw [added]
    exact .of_shown shows (.registered ⟨ticket.id, ticket.status⟩ draft fresh) rfl
      fun _ => Nat.le_refl _

end TicketStore

theorem Approval.openRequest_commands (proposal : Approval.Proposal) :
    Commands (Approval.openRequest proposal) := by
  intro s ledger shown
  have opening := exec_openRequest_opening shown proposal
  generalize exec (Approval.openRequest proposal) s = ended at opening ⊢
  cases opening with
  | failed failure => exact .of_shown shown .nothing rfl fun _ => Nat.le_refl _
  | spent failure => exact .of_shown shown .nothing rfl fun kind => s.taken_le_afterNew "APR" kind
  | opened request journal admits shows _ =>
      exact .of_shown shows (.opened _ admits) rfl fun kind => s.taken_le_afterNew "APR" kind

namespace Routing

theorem isWhole_of_companyOf {sent : NewTicket} {s s' : ServiceState} {company : Company}
    (ran : exec (companyOf sent) s = (.ok (some company), s')) : company.IsWhole := by
  unfold companyOf at ran
  split at ran
  · rw [exec_map] at ran
    cases read : Reader.model "CompanySnapshot" Company.check sent.company with
    | accepted found =>
        rw [read] at ran
        obtain rfl := Option.some.inj (Except.ok.inj (Prod.mk.inj ran).1)
        exact Company.isWhole_of_model read
    | refused faults =>
        rw [read] at ran
        cases ran
  · cases ran

/-- What is stored is a draft with the fields that were sent, and what it says of its company is whole. -/
theorem of_exec_draft {sent : NewTicket} {s s' : ServiceState} {ticket : Ticket}
    (ran : exec (draft sent) s = (.ok ticket, s')) :
    ticket.status = .draft ∧ (∀ company, ticket.company = some company → company.IsWhole) ∧
      sent.fields = .record ticket.fields := by
  obtain ⟨time, _, -, ran⟩ := exists_of_exec_bind ran
  obtain ⟨id, _, -, ran⟩ := exists_of_exec_bind ran
  obtain ⟨company, _, copied, ran⟩ := exists_of_exec_bind ran
  generalize checked : (_ : Checked (Fields → Ticket)) <*> _ = outcome at ran
  cases outcome with
  | refused faults => cases ran
  | accepted made =>
      cases ran
      simp only [Checked.seq_eq_accepted_iff, Checked.map_eq_accepted_iff] at checked
      obtain ⟨_, fields, ⟨_, -, rfl⟩, read, rfl⟩ := checked
      refine ⟨rfl, fun found same => ?_, Reader.record_eq_accepted_iff.1 (Checked.under_eq_accepted_iff.1 read)⟩
      rw [show company = some found from same] at copied
      exact isWhole_of_companyOf copied

theorem register_commands (sent : NewTicket) : Commands (register sent) := by
  intro s ledger shown
  have before := (draft_asks sent).isAside s
  rw [register_eq, exec_bind]
  cases ran : exec (draft sent) s with
  | mk outcome s' =>
      rw [ran] at before
      have still := shown.congr before.requests before.actions before.tickets
      cases outcome with
      | error failure => exact .of_shown still .nothing before.down before.taken
      | ok ticket =>
          obtain ⟨fresh, whole, -⟩ := of_exec_draft ran
          exact (TicketStore.add_commands fresh whole s' ledger still).after_aside before

variable {ledger : Ledger} {s s' : ServiceState}

/-- A ticket whose submission was prepared may be submitted. -/
theorem of_exec_prepare {id : Value} {requirements : Requirements} (shown : ledger.ShownBy s.store)
    (ran : exec (prepare id) s = (.ok requirements, s')) :
    s.down = false ∧ ∃ mark document,
      Nonempty (ledger.FirstTicket s.store (TicketStore.withId id) mark document) ∧
        mark.status.isSubmittable = true := by
  rw [prepare, exec_bind] at ran
  cases looked : exec (TicketStore.get id) s with
  | mk outcome between =>
      rw [looked] at ran
      cases outcome with
      | error failure => cases ran
      | ok ticket =>
          obtain ⟨up, mark, document, first, -, same⟩ :=
            (TicketStore.of_exec_get shown looked).2 ticket rfl
          refine ⟨up, mark, document, first, ?_⟩
          rw [same]
          by_contra unfit
          have refused : (!ticket.status.isSubmittable) = true := by simpa using unfit
          simp only [refused, if_true] at ran
          cases ran

/-- The first ticket that meets a query is the same while the table of tickets is. -/
theorem firstTicket_congr {store other : Store} {query : Query} {mark : TicketMark}
    {document : Document} (first : ledger.FirstTicket store query mark document)
    (same : other.tickets = store.tickets) :
    Nonempty (ledger.FirstTicket other query mark document) :=
  ⟨⟨first.front, first.back, first.before, first.behind, first.entries, same.trans first.documents,
    first.inFront, first.shown, first.inBack, first.passed, first.met, same ▸ first.found⟩⟩

/-- Submitting a ticket opens a request for it or approves it. -/
theorem submit_commands (id : Value) : Commands (submit id) := by
  intro s ledger shown
  have prepared := (prepare_asks id).isAside s
  rw [submit, exec_bind]
  cases ran : exec (prepare id) s with
  | mk outcome s' =>
  rw [ran] at prepared
  have still := shown.congr prepared.requests prepared.actions prepared.tickets
  cases outcome with
  | error failure => exact .of_shown still .nothing prepared.down prepared.taken
  | ok requirements =>
  obtain ⟨up, mark, document, ⟨first⟩, submittable⟩ := of_exec_prepare shown ran
  obtain ⟨first⟩ := firstTicket_congr first prepared.tickets
  apply Leaves.after_aside prepared
  dsimp only
  rw [finish]
  have answer (request : Option Request) : IsAside (do
      return (⟨← TicketStore.get id, request, requirements⟩ : Outcome)) :=
    Asks.isAside (.bind (TicketStore.get_asks id) fun _ => .pure)
  by_cases needed : requirements.requiresApproval = true
  · rw [if_pos needed]
    have opened : Commands (some <$> Approval.openRequest (proposal id requirements)) := by
      intro s ledger shown
      rw [exec_map]
      exact Approval.openRequest_commands _ s ledger shown
    exact (opened s' ledger still).bind_aside answer
  · obtain ⟨ticket, table, journal, told, shows⟩ :=
      TicketStore.exec_setStatus_first (prepared.down.trans up) still first .approved
    have approved : Leaves s' ledger (exec (TicketStore.setStatus id .approved) s').2 := by
      rw [told]
      exact .of_shown shows (.approved mark first.member submittable) rfl fun _ => Nat.le_refl _
    rw [if_neg needed]
    exact approved.bind_aside fun _ => .bind Asks.note.isAside fun _ => .bind .pure answer

end Routing

end Countersign
