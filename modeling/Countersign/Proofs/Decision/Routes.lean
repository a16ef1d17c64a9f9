/-
Module: Countersign.Proofs.Decision.Routes
Purpose: A submitted ticket goes the way that the rules of the catalog demand.
Main exports: World.Runs.agreed, World.Routed, World.submit_routes
-/
import Countersign.Proofs.Decision.ActiveRequests
import Countersign.Proofs.Ledger.Submitting
import Countersign.Proofs.World.Catalog

namespace Countersign

open Service

/-!
No approval is passed over: a ticket that is submitted is approved at once only where no enabled rule of the catalog
holds on its facts. Every rule that was ever stored demands a role, so where one holds a request is opened to the
roles of all that hold. It is not opened where a role has a NUL, which the authors of rules may write and the store
takes in a list, but not as the name of a field; then nothing is stored.
-/

namespace World

variable {environment : Session.Environment} {order : Order} {w w' : World} {ledger : Ledger} {event : Event}

/-! ### Tickets that may be submitted -/

/-- In every world that a nested run reaches, tickets and requests agree where no submission is between two points. -/
theorem Runs.agreed (reached : Runs environment inTurn start w) (rest : w.atRest = true) :
    ∃ ledger, w.Holds ledger ∧ ledger.Agreed := by
  obtain ⟨ledger, holds, -, settles⟩ := reached.preserves (P := Settles)
    (fun holds settles turn _ changes _ => changes.settles holds.sound turn settles) holds_start
    Settles.start
  exact ⟨ledger, holds, settles.agreed fun here =>
    Call.owes?_of_yields (List.all_eq_true.1 rest _ (List.mem_of_getElem? here))⟩

/-- Where tickets and requests agree, the id of a ticket that may be submitted is taken as a key only by a decided
request of that id. -/
theorem Holds.not_hasKey (holds : w.Holds ledger) (agreed : ledger.Agreed) {mark : TicketMark}
    (member : mark ∈ ledger.tickets) (submittable : mark.status.isSubmittable = true)
    (unnamed : ∀ request, w.Stores request → request.id ≠ mark.id) : ¬ w.HasKey mark.id := by
  rintro (⟨request, stored, pending, about⟩ | ⟨request, stored, -, same⟩)
  · obtain ⟨holding, known, rfl⟩ := holds.stores_iff.1 stored
    rw [agreed.status_eq_pending known pending member about.symm] at submittable
    cases submittable
  · exact unnamed request stored same

/-! ### What submitting a ticket answers -/

/-- A world in which a ticket was approved, and all else is as it was. -/
structure Approves (w : World) (ticketId : String) (w' : World) : Prop where
  told : w'.TicketIs ticketId .approved
  requests : w'.state.store.requests = w.state.store.requests
  actions : w'.state.store.actions = w.state.store.actions
  rules : w'.state.store.rules = w.state.store.rules

/-- What submitting a ticket comes to where some rules demand what they do: the ticket is approved if there are
none, else a pending request is opened to the roles that they demand, unless the store does not keep it. -/
structure Routed (w : World) (ticketId : String) (rules : List Rule) (requirements : Requirements) : Prop where
  approved : rules = [] → ∃ ticket s',
    exec (Routing.submit (.text ticketId)) w.state = (.ok ⟨ticket, none, requirements⟩, s') ∧
      w.Approves ticketId ⟨s', w.calls⟩
  opened : rules ≠ [] → requirements.Keepable → ∃ ticket given request s',
    exec (Routing.submit (.text ticketId)) w.state = (.ok ⟨ticket, some given, requirements⟩, s') ∧
      given.KeptAs request ∧ w.Enters (requirements.ask ticketId) ⟨s', w.calls⟩ request ∧
      request.approvers = requirements.approvers ∧ request.roleToRules = requirements.roleToRules
  refused : rules ≠ [] → ¬ requirements.Keepable → ∃ fault s',
    exec (Routing.submit (.text ticketId)) w.state = (.error (.store fault), s') ∧ s'.store = w.state.store

/-- Where a ticket is prepared by rules that hold and its id is no key, it goes the way that they demand. -/
theorem Holds.routed (holds : w.Holds ledger) (numbered : w.state.Numbered) (cataloged : w.state.Cataloged)
    (up : w.state.down = false) {mark : TicketMark} (member : mark ∈ ledger.tickets)
    (submittable : mark.status.isSubmittable = true) (free : ¬ w.HasKey mark.id) {facts : Fields}
    {rules : List Rule} (triggered : Rule.Triggered w.catalog facts rules) {journal : List Entry}
    (prepared : exec (Routing.prepare (.text mark.id)) w.state =
      (.ok (Requirements.ofRules rules), { w.state with journal })) :
    w.Routed mark.id rules (Requirements.ofRules rules) := by
  have reached : { w.state with journal }.down = false := up
  have shown : ledger.ShownBy { w.state with journal }.store := holds.shown
  have submitted {answer : Except Failure Routing.Outcome × ServiceState}
      (finished : exec (Routing.finish (.text mark.id) (Requirements.ofRules rules)) { w.state with journal } =
        answer) :
      exec (Routing.submit (.text mark.id)) w.state = answer := (exec_bind_ok prepared _).trans finished
  have nothing := triggered.approvers_eq_nil_iff cataloged
  have undecided := TicketStatus.ne_approved_of_isSubmittable submittable
  have proposed := Requirements.proposal_eq_ask (triggered.whole_roleToRules cataloged) mark.id
  have approvers := triggered.approvers_ask cataloged mark.id
  have storable := triggered.storable_ask_iff cataloged mark.id
  have new := (holds.free_iff numbered ((Requirements.ofRules rules).ask mark.id)).2 free
  -- Where a rule holds, the ticket goes on to a request, and the three ways of storing it are the cases below. That its
  -- id is no key is what excludes the way on which the key is taken.
  have asked (some : rules ≠ []) := Routing.exec_finish_ask_cases reached shown member undecided proposed rfl
    (approvers ▸ fun none => some (nothing.1 none)) fun none => some (nothing.1 none)
  refine ⟨?approved, ?opened, ?refused⟩
  case approved =>
    intro none
    obtain ⟨ticket, tickets, later, finished, shows, -⟩ :=
      Routing.exec_finish_approved reached shown member (nothing.2 none)
    have told : ⟨mark.id, .approved⟩ ∈ (ledger.tell mark.id .approved).tickets :=
      Ledger.mem_tell.2 ⟨mark, member, by rw [if_pos rfl]⟩
    exact ⟨ticket, _, submitted finished, (ticketIs_iff_of_shownBy shows).2 told, rfl, rfl, rfl⟩
  case opened =>
    intro some keepable
    rcases asked some with ⟨unfit, -⟩ | ⟨-, taken, -⟩ | ⟨-, -, ticket, kept, tickets, later, opened, keptAs, shows, -⟩
    · exact absurd (storable.2 keepable) unfit
    · exact absurd new taken
    · refine ⟨ticket, _, kept, _, submitted opened, keptAs, ?_, keptAs.approvers.trans approvers, ?_⟩
      · exact holds.enters member rfl new keptAs rfl shows
      · exact keptAs.roleToRules (triggered.whole_roleToRules cataloged)
  case refused =>
    intro some unfit
    rcases asked some with ⟨-, fault, failed⟩ | ⟨fit, -⟩ | ⟨fit, -⟩
    · exact ⟨fault, _, submitted failed, rfl⟩
    · exact absurd (storable.1 fit) unfit
    · exact absurd (storable.1 fit) unfit

/-! ### The way of a ticket -/

/-- In every world that a nested run reaches, and in which no submission is between two points, a ticket that may be
submitted and has the id of no request goes the way that the rules of the catalog demand: they are those enabled
rules that hold on the facts of the ticket, by priority and id. Evaluating the ticket tells what they demand and
writes to the journal alone, and the ticket goes the same way whatever is in the journal, so also when it was
evaluated just before. -/
theorem submit_routes (reached : Runs environment inTurn start w) (rest : w.atRest = true)
    (up : w.state.down = false) {document : Document} (member : document ∈ w.state.store.tickets) {ticket : Ticket}
    (reads : Ticket.check document = .accepted ticket) (submittable : ticket.status.isSubmittable = true)
    (unnamed : ∀ request, w.Stores request → request.id ≠ ticket.id) :
    ∃ rules requirements, Rule.Triggered w.catalog ticket.facts rules ∧
      Requirements.Demanded requirements rules ∧ ∀ journal,
        (∃ later, exec (Routing.evaluate (.text ticket.id)) { w.state with journal } =
          (.ok ⟨ticket.id, ticket.facts, requirements⟩, { w.state with journal := later })) ∧
        Routed ⟨{ w.state with journal }, w.calls⟩ ticket.id rules requirements := by
  obtain ⟨ledger, holds, agreed⟩ := reached.agreed rest
  obtain ⟨-, known⟩ := TicketStore.exec_get_stored up holds.shown member reads
  obtain ⟨rules, triggered, evaluates⟩ := Routing.exec_evaluate up holds.shown reached.cataloged member reads
  refine ⟨rules, _, triggered, Requirements.ofRules_demanded rules, fun journal => ?_⟩
  obtain ⟨later, evaluated, prepared⟩ := evaluates journal
  have free := holds.not_hasKey agreed known submittable unnamed
  have same : Holds ⟨{ w.state with journal }, w.calls⟩ ledger :=
    ⟨holds.shown, holds.linked, holds.knows, holds.numbered, holds.distinct⟩
  exact ⟨⟨later, evaluated⟩, same.routed reached.numbered reached.cataloged up known submittable free triggered
    (prepared submittable)⟩

end World

namespace Trial

/-- A rule is created that holds on index pricing, and a ticket with index pricing is registered. -/
def indexPriced : List World.Event :=
  [.command (.createRule
      { name := .text "Hedge", approvers := .ofTexts ["Hedging", "CFO"]
        conditions := .list [.record
          [("field", .text "pricing_type"), ("operator", .text "equals"), ("value", .text "Index")]] }),
    .command (.registerTicket { id := .text "T", fields := .record [("pricing_type", .text "Index")] })]

/-- Whether a document is that of a ticket on whose facts this rule alone holds. -/
def needsHedge (w : World) (document : Document) : Bool :=
  match Ticket.check document with
  | .accepted ticket => (ticket.id == "T" && ticket.status.isSubmittable) &&
      (w.catalog.filter (Rule.triggeredBy ticket.facts)).map (fun rule => (rule.name, rule.approvers)) ==
        [("Hedge", ["Hedging", "CFO"])]
  | .refused _ => false

end Trial

namespace World

/-- A ticket with index pricing is to be approved by the roles of that rule. -/
theorem submit_routes_of_indexPriced :
    ∃ w, Runs Trial.environment inTurn start w ∧ ∃ ticket given requirements s' request,
      exec (Routing.submit (.text "T")) w.state = (.ok ⟨ticket, some given, requirements⟩, s') ∧
      request.approvers = ["Hedging", "CFO"] ∧ request.ruleTriggered = "Hedge" ∧
      World.Stores ⟨s', w.calls⟩ request := by
  obtain ⟨w, reached, found⟩ := Runs.exists_of_play
    (p := fun w => ((w.atRest && !w.state.down) && w.state.store.requests.isEmpty) &&
      w.state.store.tickets.any (Trial.needsHedge w))
    (show (start.play Trial.environment inTurn Trial.indexPriced).any _ = true by decide +kernel)
  obtain ⟨seen, tested⟩ := Bool.and_eq_true_iff.1 found
  obtain ⟨around, none⟩ := Bool.and_eq_true_iff.1 seen
  obtain ⟨rest, up⟩ := Bool.and_eq_true_iff.1 around
  obtain ⟨document, member, needs⟩ := List.any_eq_true.1 tested
  have nobody (request : Request) : ¬ w.Stores request := by
    rintro ⟨document, known, -⟩
    rw [List.isEmpty_iff.1 none] at known
    cases known
  unfold Trial.needsHedge at needs
  split at needs
  · next ticket reads =>
      obtain ⟨stands, demanded⟩ := Bool.and_eq_true_iff.1 needs
      obtain ⟨named, submittable⟩ := Bool.and_eq_true_iff.1 stands
      obtain ⟨rules, requirements, triggered, demands, routed⟩ := submit_routes reached rest (by simpa using up) member
        reads submittable fun request stored => absurd stored (nobody request)
      have one := (triggered.exactly.map fun rule => (rule.name, rule.approvers)).trans
        (.of_eq (beq_iff_eq.1 demanded))
      obtain ⟨rule, rfl, same⟩ := List.map_eq_singleton_iff.1 (List.perm_singleton.1 one)
      obtain ⟨name, roles⟩ := Prod.mk.inj same
      have approvers : requirements.approvers = ["Hedging", "CFO"] := by
        rw [demands.approvers, List.flatMap_singleton, roles]
        decide
      have triggers : requirements.ruleTriggered = "Hedge" := by
        rw [demands.ruleTriggered, List.map_singleton, name]
        decide
      have keepable : requirements.Keepable := by
        rw [Requirements.Keepable, approvers, triggers]
        decide +kernel
      obtain ⟨-, way⟩ := routed w.state.journal
      obtain ⟨ticket, given, request, s', opened, -, enters, roles, -⟩ := way.opened (by simp) keepable
      rw [beq_iff_eq.1 named] at opened
      exact ⟨w, reached, ticket, given, requirements, s', request, opened, roles.trans approvers,
        enters.ruleTriggered.trans triggers, enters.stores⟩
  · cases needs

end World

end Countersign
