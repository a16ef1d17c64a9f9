/-
Module: Countersign.Proofs.Ledger.Submitting
Purpose: What evaluating and submitting a ticket answers, by the rules of the catalog that hold on its facts.
Main exports: Requirements.ask, Requirements.proposal_eq_ask, Rule.Triggered.approvers_eq_nil_iff,
  Routing.exec_evaluate, Routing.exec_finish_approved, Routing.exec_finish_ask_cases
-/
import Countersign.Proofs.Catalog.Attribution
import Countersign.Proofs.Catalog.Matching
import Countersign.Proofs.Ledger.Proposals

namespace Countersign

open Service

/-!
A ticket that is submitted is approved at once when no rule of the catalog holds on its facts. Every stored rule
demands a role, so where a rule holds a request is asked for, to the roles of all rules that hold.
-/

variable {ledger : Ledger} {s : ServiceState} {ticket : Ticket} {rules : List Rule}

/-! ### What triggered rules ask for -/

namespace Requirements

/-- The request that requirements ask for, for a ticket. -/
def ask (requirements : Requirements) (ticketId : String) : Approval.Ask :=
  { ticketId, roles := requirements.approvers, rule := requirements.ruleTriggered
    rules := some requirements.roleToRules }

/-- Whether the store keeps what requirements say: it takes no name of a field that has a NUL. -/
def Keepable (requirements : Requirements) : Prop :=
  Text.hasHalf requirements.ruleTriggered = false ∧ ∀ role ∈ requirements.approvers, '\x00' ∉ role.toList

instance (requirements : Requirements) : Decidable requirements.Keepable := inferInstanceAs (Decidable (_ ∧ _))

/-- Where the names of roles are whole they are written as they are. -/
theorem namesValue_eq_namesRecord {entries : List (String × List String)}
    (whole : ∀ entry ∈ entries, Text.hasHalf entry.1 = false) :
    namesValue entries = Approval.namesRecord entries := by
  refine congrArg Value.record (Dump.entries_of_whole ?_)
  rw [List.forall_mem_map]
  exact whole

/-- Where the names of roles are whole, what is proposed for requirements is what they ask for. -/
theorem proposal_eq_ask {requirements : Requirements}
    (whole : ∀ entry ∈ requirements.roleToRules, Text.hasHalf entry.1 = false) (ticketId : String) :
    Routing.proposal (.text ticketId) requirements = (requirements.ask ticketId).proposal := by
  rw [Routing.proposal, namesValue_eq_namesRecord whole]
  rfl

end Requirements

namespace Rule.Triggered

variable {facts : Fields}

/-- Each triggered rule of a catalog of rules demands a role, and its roles are whole texts that are not empty. -/
theorem exists_shownBy {documents : List Document} (cataloged : ∀ document ∈ documents, document.IsRule)
    (triggered : Triggered (documents.filterMap Rule.ofDocument?) facts rules) {rule : Rule}
    (member : rule ∈ rules) : ∃ document, rule.ShownBy document := by
  obtain ⟨document, within, read⟩ := List.mem_filterMap.1 (triggered.mem_iff.1 member).1
  obtain ⟨known, shown⟩ := (cataloged document within).exists_shownBy
  obtain rfl := Option.some.inj (shown.ofDocument?.symm.trans read)
  exact ⟨document, shown⟩

variable {documents : List Document} (cataloged : ∀ document ∈ documents, document.IsRule)
  (triggered : Triggered (documents.filterMap Rule.ofDocument?) facts rules)

include cataloged triggered

/-- Something is demanded exactly where a rule is triggered. -/
theorem approvers_eq_nil_iff : (Requirements.ofRules rules).approvers = [] ↔ rules = [] := by
  constructor
  · intro none
    cases rules with
    | nil => rfl
    | cons rule rest =>
        obtain ⟨document, shown⟩ := triggered.exists_shownBy cataloged (List.mem_cons_self ..)
        obtain ⟨role, within⟩ := List.exists_mem_of_ne_nil _ shown.demanding
        have demanded : role ∈ (Requirements.ofRules (rule :: rest)).approvers :=
          Requirements.mem_approvers_iff.2 ⟨rule, List.mem_cons_self .., within⟩
        rw [none] at demanded
        cases demanded
  · rintro rfl
    rfl

theorem of_mem_approvers {role : String} (member : role ∈ (Requirements.ofRules rules).approvers) :
    role ≠ "" ∧ Text.hasHalf role = false := by
  obtain ⟨rule, within, named⟩ := Requirements.mem_approvers_iff.1 member
  obtain ⟨document, shown⟩ := triggered.exists_shownBy cataloged within
  exact ⟨shown.named role named, shown.whole role named⟩

/-- What is asked for are all roles that the rules demand. -/
theorem approvers_ask (ticketId : String) :
    ((Requirements.ofRules rules).ask ticketId).approvers = (Requirements.ofRules rules).approvers := by
  have kept : (Requirements.ofRules rules).approvers.filter (· ≠ "") = (Requirements.ofRules rules).approvers := by
    rw [List.filter_eq_self]
    intro role member
    simpa using (triggered.of_mem_approvers cataloged member).1
  have once : (Requirements.ofRules rules).approvers.Nodup := (FirstSeen.distinct _).nodup
  rw [Approval.Ask.approvers]
  exact (congrArg List.eraseDups kept).trans (eraseDups_of_nodup once)

theorem whole_roleToRules : ∀ entry ∈ (Requirements.ofRules rules).roleToRules, Text.hasHalf entry.1 = false := by
  rw [(Requirements.ofRules_demanded rules).roleToRules, List.forall_mem_map]
  exact fun role member => (triggered.of_mem_approvers cataloged member).2

/-- The store keeps what is asked for unless a role has a NUL, or the names of the rules together are not whole. -/
theorem storable_ask_iff (ticketId : String) :
    ((Requirements.ofRules rules).ask ticketId).Storable ↔ (Requirements.ofRules rules).Keepable := by
  have roles {role : String} (member : role ∈ (Requirements.ofRules rules).approvers) :
      Text.hasHalf role = false := (triggered.of_mem_approvers cataloged member).2
  have names {role name : String} (member : name ∈ Requirements.rulesOf rules role) : Text.hasHalf name = false := by
    obtain ⟨rule, within, rfl⟩ := List.mem_map.1 (Requirements.mem_distinct_iff.1 member)
    obtain ⟨document, shown⟩ := triggered.exists_shownBy cataloged (List.mem_filter.1 within).1
    exact shown.wholeName
  have entries : (Requirements.namesValue (Requirements.ofRules rules).roleToRules).storeFault? = none ↔
      ∀ role ∈ (Requirements.ofRules rules).approvers, '\x00' ∉ role.toList := by
    rw [Requirements.namesValue_eq_namesRecord (triggered.whole_roleToRules cataloged), Approval.namesRecord,
      Value.storeFault?_record_iff, List.forall_mem_map]
    change (∀ entry ∈ (Requirements.ofRules rules).approvers.map
      fun role => (role, Requirements.rulesOf rules role), _) ↔ _
    rw [List.forall_mem_map]
    refine forall₂_congr fun role member => ?_
    have kept : (Value.ofTexts (Requirements.rulesOf rules role)).storeFault? = none :=
      Value.storeFault?_ofTexts_iff.2 fun name => names
    rw [and_iff_left kept]
    simp [Value.nameFault?, roles member]
  rw [Approval.Ask.Storable, triggered.approvers_ask cataloged]
  constructor
  · rintro ⟨-, whole, kept⟩
    exact ⟨whole, entries.1 kept⟩
  · rintro ⟨whole, kept⟩
    exact ⟨fun _ => roles, whole, entries.2 kept⟩

end Rule.Triggered

namespace Routing

/-! ### Evaluating -/

/-- A stored ticket is evaluated by the rules that hold on its facts, and prepared by the same ones. -/
theorem exec_evaluate (up : s.down = false) (shown : ledger.ShownBy s.store) (cataloged : s.Cataloged)
    {document : Document} (member : document ∈ s.store.tickets) (reads : Ticket.check document = .accepted ticket) :
    ∃ rules, Rule.Triggered (s.store.rules.filterMap Rule.ofDocument?) ticket.facts rules ∧
      ∀ journal, ∃ later,
        exec (evaluate (.text ticket.id)) { s with journal } =
          (.ok ⟨ticket.id, ticket.facts, Requirements.ofRules rules⟩, { s with journal := later }) ∧
        (ticket.status.isSubmittable = true →
          exec (prepare (.text ticket.id)) { s with journal } =
            (.ok (Requirements.ofRules rules), { s with journal := later })) := by
  obtain ⟨rules, triggered, resolves⟩ := exec_resolve up cataloged ticket
  refine ⟨rules, triggered, fun journal => ?_⟩
  have reached : { s with journal }.down = false := up
  have still : ledger.ShownBy { s with journal }.store := shown
  obtain ⟨got, -⟩ := TicketStore.exec_get_stored reached still member reads
  obtain ⟨later, resolved⟩ := resolves journal
  refine ⟨later, ?_, fun submittable => ?_⟩
  · rw [evaluate, exec_bind_ok got, exec_bind_ok resolved]
    rfl
  · have fine : ¬ (!ticket.status.isSubmittable) = true := by simp [submittable]
    rw [prepare, exec_bind_ok got, if_neg fine, exec_bind_ok resolved]
    rfl

/-! ### Submitting -/

/-- A ticket that was told a status is got with it. -/
theorem exec_get_told (up : s.down = false) {mark : TicketMark} {status : TicketStatus}
    (shows : (ledger.tell mark.id status).ShownBy s.store) (known : mark ∈ ledger.tickets) :
    ∃ told, exec (TicketStore.get (.text mark.id)) s = (.ok told, s) ∧ told.id = mark.id ∧ told.status = status := by
  have member : ⟨mark.id, status⟩ ∈ (ledger.tell mark.id status).tickets :=
    Ledger.mem_tell.2 ⟨mark, known, by rw [if_pos rfl]⟩
  obtain ⟨-, -, told, -, got, id, stands⟩ := TicketStore.exec_get_known up shows member
  exact ⟨told, got, id, stands⟩

/-- Where nothing is demanded the ticket is approved, and no request is opened. -/
theorem exec_finish_approved (up : s.down = false) (shown : ledger.ShownBy s.store) {mark : TicketMark}
    (known : mark ∈ ledger.tickets) {requirements : Requirements} (nothing : requirements.approvers = []) :
    ∃ approved tickets journal,
      exec (finish (.text mark.id) requirements) s = (.ok ⟨approved, none, requirements⟩,
        { s with store := s.store.setTable .tickets tickets, journal }) ∧
      (ledger.tell mark.id .approved).ShownBy (s.store.setTable .tickets tickets) ∧
      approved.status = .approved := by
  have quiet : ¬ requirements.requiresApproval = true := by simp [Requirements.requiresApproval, nothing]
  obtain ⟨document, ⟨first⟩⟩ := TicketStore.firstTicket_of_mem shown known
  obtain ⟨ticket, tickets, early, told, shows⟩ := TicketStore.exec_setStatus_first up shown first .approved
  obtain ⟨journal, noted⟩ := exec_note .info .routing
    s!"Ticket {(Value.text mark.id).display} matched no approval rules, approved directly"
    [("ticket_id", .text mark.id), ("status", .text TicketStatus.approved.name)] false
    { s with store := s.store.setTable .tickets tickets, journal := early }
  have later : { s with store := s.store.setTable .tickets tickets, journal }.down = false := up
  obtain ⟨approved, got, -, stands⟩ := exec_get_told later shows known
  refine ⟨approved, tickets, journal, ?_, shows, stands⟩
  rw [finish, if_neg quiet, exec_bind_ok told, exec_bind_ok noted]
  exact exec_bind_ok got _

/-- Where something is demanded a request is asked for. It fails as opening the request fails, or the ticket is got
behind it. -/
theorem exec_finish_ask_cases (up : s.down = false) (shown : ledger.ShownBy s.store) {mark : TicketMark}
    (known : mark ∈ ledger.tickets) (undecided : mark.status ≠ .approved) {requirements : Requirements}
    {ask : Approval.Ask} (proposed : proposal (.text mark.id) requirements = ask.proposal)
    (about : ask.ticketId = mark.id) (demanding : ask.approvers ≠ []) (demands : requirements.approvers ≠ []) :
    (¬ ask.Storable ∧ ∃ fault,
      exec (finish (.text mark.id) requirements) s = (.error (.store fault), s.afterNew "APR")) ∨
    (ask.Storable ∧ ¬ RequestStore.Free ledger (ask.next s) ∧
      exec (finish (.text mark.id) requirements) s =
        (.error (.refused (.requestActive mark.id)), s.afterNew "APR")) ∨
    (ask.Storable ∧ RequestStore.Free ledger (ask.next s) ∧ ∃ pending kept tickets journal,
      exec (finish (.text mark.id) requirements) s = (.ok ⟨pending, some (ask.next s), requirements⟩,
        { s.afterNew "APR" with
          store := (s.store.setTable .requests
            (s.store.requests ++ [Document.kept (ask.next s).document])).setTable .tickets tickets
          journal }) ∧
      (ask.next s).KeptAs kept ∧
      ((ledger.enter kept).tell mark.id .pending).ShownBy ((s.store.setTable .requests
        (s.store.requests ++ [Document.kept (ask.next s).document])).setTable .tickets tickets) ∧
      pending.status = .pending) := by
  have needed : requirements.requiresApproval = true := by simpa [Requirements.requiresApproval] using demands
  rw [finish, if_pos needed, proposed]
  rcases Approval.exec_openRequest_ask_cases up shown known undecided about demanding with
    ⟨unfit, fault, failed⟩ | ⟨fit, taken, refused⟩ | ⟨fit, free, kept, tickets, journal, opened, keptAs, shows⟩
  · exact Or.inl ⟨unfit, fault, exec_bind_error (by rw [exec_map, failed]; rfl) _⟩
  · exact Or.inr (Or.inl ⟨fit, taken, exec_bind_error (by rw [exec_map, refused]; rfl) _⟩)
  · have later : { s.afterNew "APR" with
        store := (s.store.setTable .requests
          (s.store.requests ++ [Document.kept (ask.next s).document])).setTable .tickets tickets
        journal }.down = false := up
    obtain ⟨pending, got, -, stands⟩ := exec_get_told later shows known
    refine Or.inr (Or.inr ⟨fit, free, pending, kept, tickets, journal, ?_, keptAs, shows, stands⟩)
    exact (exec_bind_ok (by rw [exec_map, opened]; rfl) _).trans (exec_bind_ok got _)

end Routing

end Countersign
