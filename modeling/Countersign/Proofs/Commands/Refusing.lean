/-
Module: Countersign.Proofs.Commands.Refusing
Purpose: How the commands on tickets and requests end, where the store shows a ledger.
Main exports: TicketStore.get_tells, Routing.register_ends, Approval.openRequest_ends, Routing.submit_ends,
  RequestStore.list_tells, Approval.statistics_tells
-/
import Countersign.Proofs.Catalog.Refusing
import Countersign.Proofs.Commands.Changes
import Countersign.Proofs.Ledger.Submitting
import Countersign.Proofs.Ledger.Trail

namespace Countersign

open Service

/-!
All that the store keeps is read again, so what asks for tickets and requests is told what is the matter. Who registers
a ticket is not told that the company is none, and where something is to be stored nobody is told that the store does
not keep it.
-/

variable {ledger : Ledger} {s : ServiceState}

/-! ### Tickets -/

namespace TicketStore

theorem get_tells (up : s.down = false) (shown : ledger.ShownBy s.store) (id : String) : Tells (get (.text id)) s := by
  by_cases known : ∃ mark ∈ ledger.tickets, mark.id = id
  · obtain ⟨mark, member, rfl⟩ := known
    obtain ⟨-, -, ticket, -, got, -⟩ := exec_get_known up shown member
    exact .ok got
  · exact .of_error (exec_get_missing up shown fun mark member same => known ⟨mark, member, same⟩) (.refused _)

end TicketStore

namespace Routing

/-- What was sent for the company of a ticket is none. -/
def NoCompany (sent : NewTicket) : Prop :=
  sent.company.truthy = true ∧ ∃ faults, Reader.model "CompanySnapshot" Company.check sent.company = .refused faults

/-- A new ticket that cannot be written, or that the store does not keep. -/
def Unkept (sent : NewTicket) : Prop :=
  ∃ s ticket, (exec (draft sent) s).1 = .ok ticket ∧ TicketStore.Unkept ticket

theorem companyOf_ends (sent : NewTicket) :
    Ends (fun _ => True) (fun _ => NoCompany sent) (companyOf sent) s := by
  unfold companyOf
  refine .ite (fun given => .map ?_) fun _ => .pure trivial
  cases read : Reader.model "CompanySnapshot" Company.check sent.company with
  | accepted company => exact .pure trivial
  | refused faults => exact .throw ⟨given, faults, read⟩

theorem idFor_ends {sent : NewTicket} {id : Option String} (named : sent.id = .ofText? id) :
    Ends (fun v => ∃ id, v = .text id) (fun _ => NoCompany sent) (idFor sent) s := by
  unfold idFor
  refine .ite (fun given => .pure ?_) fun _ => .of_ok (exec_map _ _ _) ⟨_, rfl⟩
  rw [named] at given ⊢
  cases id with
  | none => cases given
  | some id => exact ⟨id, rfl⟩

/-- Where the id that was sent is a text and the fields are a record, only a company may be wrong with a draft. -/
theorem draft_ends {sent : NewTicket} {id : Option String} {fields : Fields} (named : sent.id = .ofText? id)
    (described : sent.fields = .record fields) : Ends (fun _ => True) (fun _ => NoCompany sent) (draft sent) s := by
  refine .ok_bind (exec_now s) ((idFor_ends named).bind fun v s' _ text =>
    (companyOf_ends sent).bind fun company _ _ _ => ?_)
  obtain ⟨id, rfl⟩ := text
  rw [described]
  exact .pure trivial

/-- Registering a ticket is a surprise only where its company is none, or where it is not stored. -/
theorem register_ends (shown : ledger.ShownBy s.store) {sent : NewTicket} {id : Option String} {fields : Fields}
    (named : sent.id = .ofText? id) (described : sent.fields = .record fields) :
    Ends (fun _ => True) (fun failure => failure.Told ∨ NoCompany sent ∨ Unkept sent) (register sent) s := by
  rw [register_eq]
  refine ((draft_ends named described).mono (fun _ done => done) fun _ none => Or.inr (Or.inl none)).bind
    fun ticket s' ran _ => ?_
  have still : ledger.ShownBy s'.store := by
    have same := (draft_asks sent s).store
    rw [ran] at same
    rwa [same]
  rcases TicketStore.exec_add_cases still (of_exec_draft ran).2.1 with
    ⟨failure, failed, told | unkept⟩ | ⟨table, journal, added, -⟩
  · exact .of_error failed (Or.inl told)
  · exact .of_error failed (Or.inr (Or.inr ⟨s, ticket, congrArg Prod.fst ran, unkept⟩))
  · exact .ok added

end Routing

/-! ### Requests -/

namespace Approval

/-- Who asks for a request is told why it is not let pass. -/
theorem vet_tells (up : s.down = false) (shown : ledger.ShownBy s.store) (ask : Ask) : Tells (vet ask.proposal) s := by
  unfold vet
  rw [rolesOf_ask]
  refine .ok_bind (exec_settle _) (.ite (fun _ => .refuse) fun _ => ?_)
  exact (TicketStore.get_tells up shown ask.ticketId).bind fun ticket s' _ _ =>
    .ite (fun _ => .refuse) fun _ => .pure trivial

/-- Opening what is asked for is a surprise only where the store does not keep it. -/
theorem openRequest_ends (up : s.down = false) (shown : ledger.ShownBy s.store) (ask : Ask) :
    Ends (fun _ => True) (fun failure => failure.Told ∨ ¬ ask.Storable) (openRequest ask.proposal) s := by
  rcases exec_vet_cases shown ask.proposal with
    ⟨failure, failed⟩ | ⟨roles, mark, document, vetted, -, ⟨first⟩, undecided⟩
  · rw [openRequest_eq]
    exact .of_error (exec_bind_error failed _) (Or.inl ((vet_tells up shown ask).failure failed))
  have about : ask.ticketId = mark.id := (Ledger.FirstTicket.id_eq first).symm
  rcases exec_openRequest_ask_cases up shown first.member undecided about (of_vet_ask vetted).1 with
    ⟨unfit, fault, failed⟩ | ⟨-, -, refused⟩ | ⟨-, -, kept, tickets, journal, opened, -⟩
  · exact .of_error failed (Or.inr unfit)
  · exact .of_error refused (Or.inl (.refused _))
  · exact .ok opened

end Approval

namespace Routing

/-- The rules that hold on the facts of a stored ticket demand what the store does not keep. -/
def DemandsUnkept (store : Store) (ticketId : String) : Prop :=
  ∃ document ∈ store.tickets, ∃ ticket rules, Ticket.check document = .accepted ticket ∧ ticket.id = ticketId ∧
    Rule.Triggered (store.rules.filterMap Rule.ofDocument?) ticket.facts rules ∧ ¬ (Requirements.ofRules rules).Keepable

theorem evaluate_tells (up : s.down = false) (shown : ledger.ShownBy s.store) (cataloged : s.Cataloged) (id : String) :
    Tells (evaluate (.text id)) s := by
  by_cases known : ∃ mark ∈ ledger.tickets, mark.id = id
  · obtain ⟨mark, member, rfl⟩ := known
    obtain ⟨document, within, ticket, reads, -, same, -⟩ := TicketStore.exec_get_known up shown member
    obtain ⟨rules, -, evaluates⟩ := exec_evaluate up shown cataloged within reads
    obtain ⟨later, evaluated, -⟩ := evaluates s.journal
    rw [same] at evaluated
    exact .ok evaluated
  · exact .of_error (exec_bind_error (TicketStore.exec_get_missing up shown fun mark member same =>
      known ⟨mark, member, same⟩) _) (.refused _)

/-- Submitting a ticket is a surprise only where the rules that hold demand what the store does not keep. -/
theorem submit_ends (up : s.down = false) (shown : ledger.ShownBy s.store) (cataloged : s.Cataloged) (id : String) :
    Ends (fun _ => True) (fun failure => failure.Told ∨ DemandsUnkept s.store id) (submit (.text id)) s := by
  by_cases known : ∃ mark ∈ ledger.tickets, mark.id = id
  · obtain ⟨mark, member, rfl⟩ := known
    obtain ⟨document, within, ticket, reads, got, same, stands⟩ := TicketStore.exec_get_known up shown member
    by_cases submittable : mark.status.isSubmittable = true
    · obtain ⟨rules, triggered, evaluates⟩ := exec_evaluate up shown cataloged within reads
      obtain ⟨later, -, prepares⟩ := evaluates s.journal
      have prepared := prepares (stands ▸ submittable)
      rw [same] at prepared
      refine .ok_bind prepared ?_
      have nothing := triggered.approvers_eq_nil_iff cataloged
      by_cases none : rules = []
      · obtain ⟨approved, tickets, journal, finished, -⟩ :=
          exec_finish_approved (s := { s with journal := later }) up shown member (nothing.2 none)
        exact .ok finished
      have undecided := TicketStatus.ne_approved_of_isSubmittable submittable
      have demands : (Requirements.ofRules rules).approvers ≠ [] := fun empty => none (nothing.1 empty)
      have proposed := Requirements.proposal_eq_ask (triggered.whole_roleToRules cataloged) mark.id
      rcases exec_finish_ask_cases (s := { s with journal := later }) up shown member undecided proposed rfl
          (triggered.approvers_ask cataloged mark.id ▸ demands) demands with
        ⟨unfit, fault, failed⟩ | ⟨-, -, refused⟩ | ⟨-, -, pending, kept, tickets, journal, finished, -⟩
      · refine .of_error failed (Or.inr ⟨document, within, ticket, rules, reads, same, triggered, fun keepable => ?_⟩)
        exact unfit ((triggered.storable_ask_iff cataloged mark.id).2 keepable)
      · exact .of_error refused (Or.inl (.refused _))
      · exact .ok finished
    · have fails : exec (prepare (.text mark.id)) s =
          (.error (.refused (.ticketNotSubmittable (.text mark.id) ticket.status)), s) := by
        rw [prepare, exec_bind_ok got, if_pos (by simpa [stands] using submittable)]
        rfl
      exact .of_error (exec_bind_error fails _) (Or.inl (.refused _))
  · have missed := TicketStore.exec_get_missing up shown fun mark member same => known ⟨mark, member, same⟩
    exact .of_error (exec_bind_error (exec_bind_error missed _) _) (Or.inl (.refused _))

end Routing

/-! ### Asking for requests -/

namespace RequestStore

theorem get_tells (shown : ledger.ShownBy s.store) (id : String) : Tells (get (.text id)) s := by
  rcases Bool.eq_false_or_eq_true s.down with down | up
  · exact .of_error (exec_get_down down _) (.storage rfl)
  by_cases known : ∃ holding ∈ ledger.requests, holding.request.id = id
  · obtain ⟨holding, member, rfl⟩ := known
    exact .ok (exec_get_known up shown member)
  · exact .of_error (exec_get_unknown up shown fun holding member same => known ⟨holding, member, same⟩) (.refused _)

/-- Documents of requests are read. -/
theorem readAll_tells {documents : List Document}
    (reads : ∀ document ∈ documents, ∃ request, Request.check document = .accepted request) :
    Tells (readAll documents) s := by
  induction documents generalizing s with
  | nil => exact .pure trivial
  | cons document rest ih =>
      obtain ⟨⟨request, read⟩, others⟩ := List.forall_mem_cons.1 reads
      have accepted : exec (accept (Request.check document)) s = (.ok request, s) := by
        rw [read, exec_accept_accepted]
      exact .ok_bind accepted ((ih others).bind fun _ _ _ _ => .pure trivial)

theorem mem_of_mem_page {α : Type} {skip size : Int} {items : List α} {a : α} (member : a ∈ page skip size items) :
    a ∈ items := by
  unfold page at member
  split at member <;> split at member
  · exact List.mem_of_mem_drop member
  · exact List.mem_of_mem_drop (List.mem_of_mem_take member)
  · exact List.mem_of_mem_drop member
  · exact List.mem_of_mem_drop (List.mem_of_mem_take member)

theorem list_tells (shown : ledger.ShownBy s.store) (status : Option ApprovalStatus) (role rule ticketId : String)
    (skip size : Int) : Tells (list ⟨status, .text role, .text rule, .text ticketId⟩ skip size) s := by
  have all : Query.all.Decides fun _ => true := fun _ => rfl
  have wanted (name v : String) : ∃ test, Query.Decides (given name (.text v)) test := by
    unfold given
    split
    · exact ⟨_, Query.decides_text name v⟩
    · exact ⟨_, all⟩
  obtain ⟨byRole, second⟩ := wanted "required_approvers" role
  obtain ⟨byTicket, fourth⟩ := wanted "ticket_id" ticketId
  have third : Query.Decides
      (fun document => .ok (rule.isEmpty || mentions rule (Fields.getD document "rule_triggered")))
    fun document => rule.isEmpty || mentions rule (Fields.getD document "rule_triggered") := fun _ => rfl
  have decides := second.both (third.both fourth)
  have reads {documents : List Document} {s' : ServiceState}
      (stored : ∀ document ∈ documents, document ∈ s.store.requests) :
      Tells (readAll (page skip size documents)) s' := by
    refine readAll_tells fun document member => ?_
    obtain ⟨holding, -, here⟩ := exists_of_mem_documents shown.requests (stored document (mem_of_mem_page member))
    exact ⟨_, here.reads⟩
  cases status with
  | none => exact (select_ends (all.both decides) [⟨"created_at", true⟩]).bind fun _ _ _ stored => reads stored
  | some status =>
      exact (select_ends ((Query.decides_text "status" status.name).both decides) [⟨"created_at", true⟩]).bind
        fun _ _ _ stored => reads stored

theorem countIn_tells (statuses : List ApprovalStatus) : Tells (countIn statuses) s := by
  induction statuses generalizing s with
  | nil => exact .pure trivial
  | cons status rest ih =>
      exact (count_tells (Query.decides_text "status" status.name)).bind fun _ _ _ _ =>
        ih.bind fun _ _ _ _ => .pure trivial

end RequestStore

namespace Approval

theorem history_tells (up : s.down = false) (shown : ledger.ShownBy s.store) (id : String) :
    Tells (history (.text id)) s := by
  refine (RequestStore.get_tells shown id).bind fun request s' ran _ => ?_
  obtain ⟨rfl, -⟩ := RequestStore.of_exec_get shown ran
  exact .ok (Trail.exec_listFor up shown id)

theorem progress_tells (up : s.down = false) (shown : ledger.ShownBy s.store) (id : String) :
    Tells (progress (.text id)) s := by
  refine (RequestStore.get_tells shown id).bind fun request s' ran _ => ?_
  obtain ⟨rfl, -⟩ := RequestStore.of_exec_get shown ran
  exact .ok_bind (Trail.exec_listFor up shown id) (.pure trivial)

theorem statistics_tells : Tells statistics s := (RequestStore.countIn_tells _).bind fun _ _ _ _ => .pure trivial

end Approval

end Countersign
