/-
Module: Countersign.Proofs.Decision.Bypassing
Purpose: What others can do to the submission of a ticket between its reading and its writing.
Main exports: World.Meanwhile, World.Finishes, World.finishes_alone, World.Bypassed, World.bypassed_iff
-/
import Countersign.Proofs.Decision.Routes
import Countersign.Proofs.World.Requests

namespace Countersign

open Service

/-!
A ticket that is submitted is first read, and what it needs is found out. Others may go on before it is written. Where
roles have to approve, the store keeps a second pending request out, and the ticket is told of the request last of all.
Where nobody has to approve, the ticket is approved whatever became of it meanwhile, and then a request that others
opened for it is passed by.
-/

namespace World

variable {environment : Session.Environment} {w w' gap final : World} {ledger : Ledger} {id : String}
  {requirements : Requirements}

/-! ### Submitting a ticket while others go on -/

/-- What others may do meanwhile: any commands and submissions, as long as every submission then has come to a point or
to its end, and the store can be reached. -/
structure Meanwhile (environment : Session.Environment) (w w' : World) : Prop where
  runs : Runs environment inTurn w w'
  rest : w'.atRest = true
  up : w'.state.down = false

/-- The world after a part of a command. -/
def after {α : Type} (w : World) (part : Service α) : World := { w with state := (exec part w.state).2 }

/-- How a ticket that was read and needs what it does is submitted where others go on before each part that calls the
store: the world just before its last writing, or where it fails, and the world when it has ended. -/
inductive Finishes (environment : Session.Environment) (id : String) (requirements : Requirements) (w : World) :
    World → World → Prop where
  | approved {gap : World} (needless : requirements.requiresApproval = false) (others : Meanwhile environment w gap) :
      Finishes environment id requirements w gap (gap.after (Routing.finish (.text id) requirements))
  | unasked {gap : World} {failure : Failure} {s : ServiceState} (needs : requirements.requiresApproval = true)
      (others : Meanwhile environment w gap)
      (failed : exec (Approval.vet (Routing.proposal (.text id) requirements)) gap.state = (.error failure, s)) :
      Finishes environment id requirements w gap ⟨s, gap.calls⟩
  | unentered {first gap : World} {roles : List Value} {failure : Failure} {s s' : ServiceState}
      (needs : requirements.requiresApproval = true) (others : Meanwhile environment w first)
      (admitted : exec (Approval.vet (Routing.proposal (.text id) requirements)) first.state = (.ok roles, s))
      (then_ : Meanwhile environment ⟨s, first.calls⟩ gap)
      (failed : exec (Approval.enter (Routing.proposal (.text id) requirements) roles) gap.state =
        (.error failure, s')) :
      Finishes environment id requirements w gap ⟨s', gap.calls⟩
  | told {first second gap : World} {roles : List Value} {request : Request} {s s' : ServiceState}
      (needs : requirements.requiresApproval = true) (others : Meanwhile environment w first)
      (admitted : exec (Approval.vet (Routing.proposal (.text id) requirements)) first.state = (.ok roles, s))
      (then_ : Meanwhile environment ⟨s, first.calls⟩ second)
      (entered : exec (Approval.enter (Routing.proposal (.text id) requirements) roles) second.state =
        (.ok request, s'))
      (last : Meanwhile environment ⟨s', second.calls⟩ gap) :
      Finishes environment id requirements w gap
        (gap.after (Approval.tellTicket request >>= fun _ => TicketStore.get (.text id)))

/-- Where nobody else goes on, a ticket is submitted as it is alone. -/
theorem finishes_alone (holds : w.Holds ledger) (rest : w.atRest = true) (up : w.state.down = false)
    (id : String) (requirements : Requirements) :
    ∃ gap, Finishes environment id requirements w gap (w.after (Routing.finish (.text id) requirements)) := by
  have alone : Meanwhile environment w w := ⟨.stay, rest, up⟩
  cases needs : requirements.requiresApproval with
  | false => exact ⟨w, .approved needs alone⟩
  | true =>
  have parts : Routing.finish (.text id) requirements =
      Approval.vet (Routing.proposal (.text id) requirements) >>= fun roles =>
        Approval.enter (Routing.proposal (.text id) requirements) roles >>= fun request =>
          (Approval.tellTicket request >>= fun _ => TicketStore.get (.text id)) >>= fun ticket =>
            pure ⟨ticket, some request, requirements⟩ := by
    rw [Routing.finish, if_pos needs, Approval.openRequest_eq]
    simp only [map_eq_pure_bind, bind_assoc, pure_bind]
  rw [World.after, parts]
  cases checked : exec (Approval.vet (Routing.proposal (.text id) requirements)) w.state with
  | mk outcome s =>
  have unmoved := Approval.exec_vet_state holds.shown (Routing.proposal (.text id) requirements)
  rw [checked] at unmoved
  obtain rfl : s = w.state := unmoved
  cases outcome with
  | error failure =>
      rw [exec_bind_error checked]
      exact ⟨w, .unasked needs alone checked⟩
  | ok roles =>
  rw [exec_bind_ok checked]
  rcases Approval.exec_enter_cases up holds.shown (Routing.proposal (.text id) requirements) roles with
    ⟨failure, s', failed, -⟩ | ⟨request, kept, store, journal, entered, -⟩
  · rw [exec_bind_error failed]
    exact ⟨w, .unentered needs alone checked alone failed⟩
  · rw [exec_bind_ok entered, exec_bind]
    have told := Finishes.told needs alone checked alone entered ⟨.stay, rest, up⟩
    rw [World.after] at told
    cases last : exec (Approval.tellTicket request >>= fun _ => TicketStore.get (.text id))
        { w.state.afterNew "APR" with store, journal } with
    | mk outcome s =>
    rw [last] at told
    cases outcome <;> exact ⟨_, told⟩

/-- A world in which a ticket is approved although one of its requests is pending. -/
def Bypassed (w : World) (id : String) : Prop := w.TicketIs id .approved ∧ .pending ∈ w.statusesOf id

/-- Where tickets and requests agree no pending request is passed by. -/
theorem Holds.not_bypassed (holds : w.Holds ledger) (agreed : ledger.Agreed) (id : String) : ¬ w.Bypassed id := by
  rintro ⟨approved, pending⟩
  rw [holds.statusesOf_eq, Ledger.mem_statusesOf] at pending
  obtain ⟨holding, member, about, waits⟩ := pending
  have told := agreed.status_eq_pending member waits (holds.ticketIs_iff.1 approved) about.symm
  cases told

/-- A ticket that is there stays there. -/
theorem Runs.keeps_ticket {order : Order} (runs : Runs environment order w w') (holds : w.Holds ledger)
    (known : id ∈ ledger.tickets.map (·.id)) : ∃ after, w'.Holds after ∧ id ∈ after.tickets.map (·.id) := by
  obtain ⟨after, there, -, still⟩ := runs.preserves (P := fun _ ledger => id ∈ ledger.tickets.map (·.id))
    (fun _ known _ _ changes _ => changes.tickets known) holds known
  exact ⟨after, there, still⟩

/-- A request that was stored for a ticket that is there stands behind all others. -/
theorem Holds.entered (holds : w.Holds ledger) {kept : Request} {store : Store} {journal : List Entry}
    (shows : (ledger.enter kept).ShownBy store) (numbered : ∃ number, kept.id = idText "APR" number)
    (ticketed : kept.ticketId ∈ ledger.tickets.map (·.id)) :
    Holds ⟨{ w.state.afterNew "APR" with store, journal }, w.calls⟩ (ledger.enter kept) := by
  have same : ServiceState.taken { w.state.afterNew "APR" with store, journal } "ACT" = w.state.taken "ACT" :=
    (w.state.taken_afterNew "APR" "ACT").trans (if_neg (by decide))
  refine holds.around shows ?_ ?_ ?_ (w.state.taken_le_afterNew "APR" "LOCK")
  · rw [same]
    exact holds.linked.enter numbered ticketed
  · exact Ledger.evolves_enter ledger kept
  · exact Ledger.spares_enter ledger kept

/-- A ticket that nobody has to approve is approved, and passes by what is pending then. -/
theorem Holds.bypassed_after_finish (holds : w.Holds ledger) (up : w.state.down = false)
    (known : id ∈ ledger.tickets.map (·.id)) (nothing : requirements.approvers = []) :
    (w.after (Routing.finish (.text id) requirements)).Bypassed id ↔ .pending ∈ w.statusesOf id := by
  obtain ⟨mark, member, rfl⟩ := List.mem_map.1 known
  obtain ⟨ticket, tickets, journal, finished, shows, -⟩ :=
    Routing.exec_finish_approved up holds.shown member nothing
  have told : ⟨mark.id, .approved⟩ ∈ (ledger.tell mark.id .approved).tickets :=
    Ledger.mem_tell.2 ⟨mark, member, by rw [if_pos rfl]⟩
  rw [World.after, finished]
  exact and_iff_right ((ticketIs_iff_of_shownBy shows).2 told)

/-- A ticket that is told of a pending request is not approved then. -/
theorem Holds.not_bypassed_after_telling (holds : w.Holds ledger) (up : w.state.down = false) {request : Request}
    (pending : request.status = .pending) :
    ¬ (w.after (Approval.tellTicket request >>= fun _ => TicketStore.get (.text request.ticketId))).Bypassed
      request.ticketId := by
  obtain ⟨tickets, journal, told, shows⟩ := Approval.exec_tellTicket up holds.shown request
  rw [World.after, exec_bind_ok told]
  cases looked : exec (TicketStore.get (.text request.ticketId))
      { w.state with store := w.state.store.setTable .tickets tickets, journal } with
  | mk found s =>
  obtain ⟨rfl, -⟩ := TicketStore.of_exec_get shows looked
  rintro ⟨approved, -⟩
  obtain ⟨mark, -, same⟩ := Ledger.mem_tell.1 ((ticketIs_iff_of_shownBy shows).1 approved)
  split at same
  · rw [pending] at same
    cases congrArg TicketMark.status same
  · next other => exact other (congrArg TicketMark.id same)

/-- A submitted ticket passes by a pending request exactly where nobody has to approve it and one of its requests is
pending when it is written. -/
theorem Finishes.passes_by_iff (reached : Runs environment inTurn start w) (holds : w.Holds ledger)
    (known : id ∈ ledger.tickets.map (·.id)) (finishes : Finishes environment id requirements w gap final) :
    final.Bypassed id ↔ requirements.approvers = [] ∧ .pending ∈ gap.statusesOf id := by
  have demands (needs : requirements.requiresApproval = true) : requirements.approvers ≠ [] := by
    simpa [Requirements.requiresApproval] using needs
  -- Where the submission writes nothing, the world is as others left it.
  have unwritten {gap : World} {s : ServiceState} (needs : requirements.requiresApproval = true)
      (reached : Runs environment inTurn start gap) (rest : gap.atRest = true)
      (same : s.store = gap.state.store) :
      Bypassed ⟨s, gap.calls⟩ id ↔ requirements.approvers = [] ∧ .pending ∈ gap.statusesOf id := by
    obtain ⟨ledger, there, agreed⟩ := reached.agreed rest
    have still : ¬ gap.Bypassed id := there.not_bypassed agreed id
    refine iff_of_false (fun bypassed => still ?_) fun nothing => demands needs nothing.1
    simpa only [Bypassed, TicketIs, statusesOf, same] using bypassed
  have admits {first : World} {outcome : Except Failure (List Value)} {s : ServiceState}
      (others : Meanwhile environment w first)
      (admitted : exec (Approval.vet (Routing.proposal (.text id) requirements)) first.state = (outcome, s)) :
      s = first.state := by
    obtain ⟨ledger, there, -⟩ := others.runs.holds holds
    have unmoved := Approval.exec_vet_state there.shown (Routing.proposal (.text id) requirements)
    rwa [admitted] at unmoved
  cases finishes with
  | approved needless others =>
      obtain ⟨after, there, still⟩ := others.runs.keeps_ticket holds known
      have nothing : requirements.approvers = [] := by simpa [Requirements.requiresApproval] using needless
      rw [there.bypassed_after_finish others.up still nothing, and_iff_right nothing]
  | unasked needs others failed =>
      obtain rfl := admits others failed
      exact unwritten needs (reached.trans others.runs) others.rest rfl
  | @unentered first gap roles failure s s' needs others admitted then_ failed =>
      obtain rfl := admits others admitted
      obtain ⟨after, there, -⟩ := (others.runs.trans then_.runs).holds holds
      refine unwritten needs ((reached.trans others.runs).trans then_.runs) then_.rest ?_
      rcases Approval.exec_enter_cases then_.up there.shown (Routing.proposal (.text id) requirements) roles with
        ⟨_, _, ran, same⟩ | ⟨_, _, _, _, ran, -⟩
      · obtain ⟨-, rfl⟩ := Prod.mk.inj (failed.symm.trans ran)
        rcases same with rfl | rfl <;> rfl
      · cases (Prod.mk.inj (failed.symm.trans ran)).1
  | @told first second gap roles request s s' needs others admitted then_ entered last =>
      obtain rfl := admits others admitted
      refine iff_of_false ?_ fun nothing => demands needs nothing.1
      obtain ⟨after, there, still⟩ := (others.runs.trans then_.runs).keeps_ticket holds known
      rcases Approval.exec_enter_cases then_.up there.shown (Routing.proposal (.text id) requirements) roles with
        ⟨_, _, ran, -⟩ | ⟨request, kept, store, journal, ran, opened, keptAs, -, shows⟩
      · cases (Prod.mk.inj (entered.symm.trans ran)).1
      · obtain ⟨same, rfl⟩ := Prod.mk.inj (entered.symm.trans ran)
        obtain rfl := Except.ok.inj same
        have about : id = request.ticketId := Value.text.inj opened.ticketId
        subst about
        have stored : Holds ⟨{ second.state.afterNew "APR" with store, journal }, second.calls⟩ (after.enter kept) :=
          there.entered shows ⟨_, keptAs.id.trans opened.id⟩ (keptAs.ticketId ▸ still)
        obtain ⟨later, behind, -⟩ := last.runs.holds stored
        exact behind.not_bypassed_after_telling last.up opened.pending

/-- In every world that a nested run reaches, and in which no submission is between two points, a ticket that may be
submitted is prepared by the rules of the catalog that hold on its facts. However others go on before it is written,
the ticket is then approved over a pending request of its own exactly where no rule holds and others opened a request
for it that is still pending when the ticket is approved. -/
theorem bypassed_iff (reached : Runs environment inTurn start w) (rest : w.atRest = true)
    (up : w.state.down = false) {document : Document} (member : document ∈ w.state.store.tickets) {ticket : Ticket}
    (reads : Ticket.check document = .accepted ticket) (submittable : ticket.status.isSubmittable = true) :
    .pending ∉ w.statusesOf ticket.id ∧
    ∃ rules requirements s, Rule.Triggered w.catalog ticket.facts rules ∧
      Requirements.Demanded requirements rules ∧
      exec (Routing.prepare (.text ticket.id)) w.state = (.ok requirements, s) ∧
      ∀ {gap final}, Finishes environment ticket.id requirements ⟨s, w.calls⟩ gap final →
        (final.Bypassed ticket.id ↔ rules = [] ∧ .pending ∈ gap.statusesOf ticket.id) := by
  obtain ⟨ledger, holds, agreed⟩ := reached.agreed rest
  obtain ⟨-, known⟩ := TicketStore.exec_get_stored up holds.shown member reads
  obtain ⟨rules, triggered, evaluates⟩ := Routing.exec_evaluate up holds.shown reached.cataloged member reads
  obtain ⟨journal, -, prepared⟩ := evaluates w.state.journal
  refine ⟨?_, rules, _, _, triggered, Requirements.ofRules_demanded rules, prepared submittable,
    fun finishes => ?_⟩
  · rw [holds.statusesOf_eq, Ledger.mem_statusesOf]
    rintro ⟨holding, within, about, waits⟩
    have pending : ticket.status = .pending := agreed.status_eq_pending within waits known about.symm
    rw [pending] at submittable
    cases submittable
  · have read : Runs environment inTurn start ⟨{ w.state with journal }, w.calls⟩ :=
      .next reached (.shift { w.state with journal }) rest rfl
    have same : Holds ⟨{ w.state with journal }, w.calls⟩ ledger :=
      ⟨holds.shown, holds.linked, holds.knows, holds.numbered, holds.distinct⟩
    rw [finishes.passes_by_iff read same (List.mem_map.2 ⟨_, known, rfl⟩),
      triggered.approvers_eq_nil_iff reached.cataloged]

end World

namespace Trial

/-- Whether a ticket is there whose only request, when others open one between the halves of its submission, is pending
when the ticket is written. -/
def opensMeanwhile (w : World) (document : Document) : Bool :=
  match Ticket.check document, exec (Routing.prepare (.text "T")) w.state with
  | .accepted ticket, (.ok _, s) => (ticket.id == "T" && ticket.status.isSubmittable) &&
      (World.play environment World.inTurn ⟨s, w.calls⟩ ((opening ["X"]).drop 1)).any fun gap =>
        (gap.atRest && !gap.state.down) && gap.statusesOf "T" == [.pending]
  | _, _ => false

end Trial

namespace World

/-- A ticket that no rule holds on is read, others open a request for it, and then it is approved. -/
theorem bypassed_iff_of_opened_meanwhile :
    ∃ w requirements s gap final, Runs Trial.environment inTurn start w ∧
      exec (Routing.prepare (.text "T")) w.state = (.ok requirements, s) ∧
      Finishes Trial.environment "T" requirements ⟨s, w.calls⟩ gap final ∧ final.Bypassed "T" := by
  obtain ⟨w, reached, found⟩ := Runs.exists_of_play
    (p := fun w => ((w.atRest && !w.state.down) && w.state.store.rules.isEmpty) &&
      w.state.store.tickets.any (Trial.opensMeanwhile w))
    (show (start.play Trial.environment inTurn ((Trial.opening ["X"]).take 1)).any _ = true by decide +kernel)
  obtain ⟨seen, opens⟩ := Bool.and_eq_true_iff.1 found
  obtain ⟨around, ruleless⟩ := Bool.and_eq_true_iff.1 seen
  obtain ⟨rest, up⟩ := Bool.and_eq_true_iff.1 around
  obtain ⟨document, member, meanwhile⟩ := List.any_eq_true.1 opens
  unfold Trial.opensMeanwhile at meanwhile
  split at meanwhile
  · next ticket _ s reads ran =>
      obtain ⟨stands, played⟩ := Bool.and_eq_true_iff.1 meanwhile
      obtain ⟨named, submittable⟩ := Bool.and_eq_true_iff.1 stands
      obtain ⟨-, rules, requirements, s', triggered, demands, prepared, bypasses⟩ :=
        bypassed_iff reached rest (by simpa using up) member reads submittable
      have nothing : rules = [] := by
        have none := triggered.exactly.length_eq
        rw [catalog, List.isEmpty_iff.1 ruleless] at none
        exact List.length_eq_zero_iff.1 none
      rw [beq_iff_eq.1 named] at prepared bypasses
      obtain ⟨-, rfl⟩ := Prod.mk.inj (ran.symm.trans prepared)
      obtain ⟨gap, others, tested⟩ := Runs.exists_of_play played
      obtain ⟨settled, waits⟩ := Bool.and_eq_true_iff.1 tested
      obtain ⟨rest', up'⟩ := Bool.and_eq_true_iff.1 settled
      have needless : requirements.requiresApproval = false := by
        rw [Requirements.requiresApproval, demands.approvers, nothing]
        rfl
      have finishes : Finishes Trial.environment "T" requirements ⟨s, w.calls⟩ gap _ :=
        .approved needless ⟨others, rest', by simpa using up'⟩
      exact ⟨w, requirements, s, gap, _, reached, prepared, finishes,
        (bypasses finishes).2 ⟨nothing, by simp [beq_iff_eq.1 waits]⟩⟩
  · cases meanwhile

end World

end Countersign
