/-
Module: Countersign.Proofs.Decision.Concurrent
Purpose: Submissions that approve one request at the same time decide it exactly once.
Main exports: World.Fresh, World.SparesTicket, Ledger.Told, World.Ordered, World.Changes.ordered,
  World.approvals_decide_once
-/
import Countersign.Proofs.Decision.Openings
import Countersign.Proofs.Decision.TicketAgreement
import Countersign.Proofs.Decision.Turns
import Mathlib.Data.List.Perm.Basic

namespace Countersign

open Service

/-!
However the steps of submissions on a request are mixed, those that all come back without an error have taken turns:
each was inside alone, read the actions of all that were inside before it, and committed its own behind them. So
when every required role approved, it was the last of them that found all approvals there.
-/

namespace Ledger

variable {ledger after : Ledger} {holding : Holding} {committed : List Action} {waiting : Option Action}
  {calls front back : List Call} {call : Call} {next : Phase} {down : Bool} {id ticketId : String}

/-- Nobody else has or gets the lease on a request that is left alone. -/
theorem Keeps.held {token : String} (keeps : Keeps id ledger after) (sound : after.Sound)
    (known : ∃ holding ∈ ledger.requests, holding.request.id = id) (held : after.Held id token) :
    ledger.Held id token := by
  obtain ⟨holding, member, same⟩ := known
  obtain ⟨later, found, about, holds⟩ := held
  obtain rfl := sound.eq_of_id found (keeps.requests holding member same) (about.trans same.symm)
  exact ⟨later, member, same, holds⟩

/-- The ticket stands as those submissions said that came to their end and changed the status of the request. -/
def Told (ledger : Ledger) (ticketId : String) (calls : List Call) : Prop :=
  ∀ call ∈ calls, ∀ result, call.phase = .done (.ok result) → result.statusChanged = true →
    ⟨ticketId, result.request.status.ticketStatus⟩ ∈ ledger.tickets

/-- Whoever changed the status reports the request as it is stored. -/
theorem Orderly.request_of_reports {calls : List Call} (orderly : ledger.Orderly holding committed waiting calls)
    (sound : ledger.Sound) {result : ActionResult} (reports : ledger.Reports holding.request.id (.ok result))
    (changed : result.statusChanged = true) : result.request = holding.request := by
  obtain ⟨about, decided⟩ := reports result rfl
  obtain ⟨-, other, member, same⟩ := decided changed
  rw [← same, sound.eq_of_id member orderly.inStep.member ((congrArg Request.id same).trans about)]

/-- A submission that ends with a change of the status has told the ticket of it. -/
theorem Told.ended {taken : Nat} (told : ledger.Told ticketId (front ++ call :: back))
    (orderly : ledger.Orderly holding committed waiting (front ++ call :: back))
    (ticket : holding.request.ticketId = ticketId) (sound : ledger.Sound) (linked : ledger.Linked taken)
    (knows : call.phase.Knows ledger holding.request.id call.submission.token)
    (moves : call.phase.Moves call.submission holding.request.id down ledger after next) {result : ActionResult}
    (ended : next = .done (.ok result)) (changed : result.statusChanged = true) :
    ⟨ticketId, result.request.status.ticketStatus⟩ ∈ after.tickets := by
  have before := told call (mem_middle_iff.2 (Or.inl rfl)) result
  obtain ⟨submission, phase⟩ := call
  cases moves with
  | failed failure fails =>
      cases (Phase.outcome?_onFailure phase failure).symm.trans (congrArg Phase.outcome? ended)
  | @released outcome up there member same held => cases outcome <;> cases ended
  | @lost outcome up other => cases outcome <;> cases ended
  | announced changes up =>
      cases ended
      have same := orderly.request_of_reports sound knows changed
      obtain ⟨mark, there, named⟩ := List.mem_map.1 (linked.ticketed holding orderly.inStep.member)
      refine mem_tell.2 ⟨mark, there, ?_⟩
      rw [same, if_pos named, ← ticket, ← named]
  | quiet unchanged =>
      cases ended
      rw [unchanged] at changed
      cases changed
  | ended => exact before ended changed
  | _ => cases ended

/-- Submissions that take turns keep the ticket as they told it. -/
theorem Told.advanced {taken : Nat} (told : ledger.Told ticketId (front ++ call :: back))
    (orderly : ledger.Orderly holding committed waiting (front ++ call :: back))
    (ticket : holding.request.ticketId = ticketId) (sound : ledger.Sound) (linked : ledger.Linked taken)
    (knows : ∀ another ∈ front ++ call :: back,
      another.phase.Knows ledger holding.request.id another.submission.token)
    (moves : call.phase.Moves call.submission holding.request.id down ledger after next) :
    after.Told ticketId (front ++ { call with phase := next } :: back) := by
  have part := orderly.parts call (mem_middle_iff.2 (Or.inl rfl))
  have known := knows call (mem_middle_iff.2 (Or.inl rfl))
  intro another member result ended changed
  rcases mem_middle_iff.1 member with rfl | beside
  · exact told.ended orderly ticket sound linked known moves ended changed
  · have before := told another (mem_middle_iff.2 (Or.inr beside)) result ended changed
    have alsoKnown := knows another (mem_middle_iff.2 (Or.inr beside))
    rw [ended] at alsoKnown
    obtain ⟨submission, phase⟩ := call
    -- The ticket changes only where it is told, and then of the status that both report.
    cases moves with
    | spread up =>
        cases part with
        | before outside unreported => cases outside
        | engaged held engaged => cases engaged
        | reported report role decision version => cases report
    | announced changes up =>
        apply mem_tell_of_mem before
        intro
        rw [orderly.request_of_reports sound alsoKnown changed, orderly.request_of_reports sound known changes]
    | _ => exact before

/-- Where submissions that took turns reported the approvals of some roles, the trail has these approvals. -/
theorem Orderly.trail_of_approvals {roles : List String}
    (orderly : ledger.Orderly holding committed none calls)
    (approvals : ((calls.filterMap Call.reported?).map fun result =>
      (Value.text result.action.role, result.action.decision)).Perm (roles.map fun role => (.text role, .approve))) :
    (committed.map Action.step).Perm (roles.map fun role => (role, .approve)) := by
  have apart : Function.Injective (fun step : String × Decision => (Value.text step.1, step.2)) := by
    rintro ⟨role, decision⟩ ⟨other, another⟩ same
    obtain ⟨rfl, rfl⟩ : role = other ∧ decision = another := by simpa using same
    rfl
  refine (orderly.reports.map Action.step).trans ((List.map_perm_map_iff apart).1 ?_)
  simpa [List.map_map, Function.comp_def, Action.step, Action.kept] using approvals

/-- A request is approved when its trail has the approval of every required role and nothing else. -/
theorem InStep.approved_of_trail (inStep : ledger.InStep holding committed none)
    (required : holding.request.approvers ≠ [])
    (trail : (committed.map Action.step).Perm (holding.request.approvers.map fun role => (role, .approve))) :
    holding.request.status = .approved := by
  rw [inStep.status]
  refine ApprovalStatus.ofHistory_eq_approved required (fun role needed => ?_) fun role _ within => ?_
  · exact trail.mem_iff.2 (List.mem_map.2 ⟨role, needed, rfl⟩)
  · obtain ⟨other, -, same⟩ := List.mem_map.1 (trail.mem_iff.1 within)
    cases same

end Ledger

namespace World

variable {environment : Session.Environment} {order : Order} {w w' w₀ : World} {ledger after : Ledger}
  {event : Event} {request : Request} {since : Nat}

/-- Only submissions on a request change where its ticket stands. -/
def SparesTicket (environment : Session.Environment) (order : Order) (request : Request) : Prop :=
  ∀ {w : World} {event : Event} {w' : World}, order w event = true → w.take environment event = some w' →
    w.movesOn request.id event = false →
    ∀ status, w.TicketIs request.ticketId status → w'.TicketIs request.ticketId status

/-- A world in which a submission on a request can only fail, or the submissions on it take turns and have told its
ticket what they decided, unless others have told it something else. -/
def Ordered (environment : Session.Environment) (order : Order) (request : Request) (since : Nat) (w : World)
    (ledger : Ledger) : Prop :=
  (∃ holding ∈ ledger.requests, holding.request.id = request.id) ∧
  (ledger.Doomed request.id (w.callsOn request.id since) ∨
    ∃ holding committed waiting, request.SameOrigin holding.request ∧
      ledger.Orderly holding committed waiting (w.callsOn request.id since) ∧
      (SparesTicket environment order request → ledger.Told request.ticketId (w.callsOn request.id since)))

/-- What is known of a submission on a request. -/
theorem Holds.knowsOn {call : Call} {id : String} (holds : w.Holds ledger) (member : call ∈ w.callsOn id since) :
    call.submission.On id ∧ call.phase.Knows ledger id call.submission.token := by
  obtain ⟨index, here⟩ := mem_calls_of_mem_callsOn member
  obtain ⟨other, on, knows⟩ := holds.knows here
  obtain rfl := (Call.isOn_iff on).1 (List.mem_filter.1 member).2
  exact ⟨on, knows⟩

/-- Every event keeps this. -/
theorem Changes.ordered (changes : w.Changes ledger event w' after) (holds : w.Holds ledger) (later : w'.Holds after)
    (quiet : w.Quiet request.id since) (allowed : order w event = true)
    (taken : w.take environment event = some w') (ordered : Ordered environment order request since w ledger) :
    Ordered environment order request since w' after := by
  obtain ⟨known, state⟩ := ordered
  have stays : ∃ holding ∈ after.requests, holding.request.id = request.id := by
    obtain ⟨holding, member, about⟩ := known
    obtain ⟨further, found, same⟩ := (changes.evolves holds.sound).origins holding member
    exact ⟨further, found, same.id.trans about⟩
  refine ⟨stays, ?_⟩
  -- Either a submission is bound to fail, and stays so, or all of them still take turns.
  cases changes.touches holds quiet with
  | aside same keeps still =>
      rw [same]
      rcases state with ⟨call, member, lost⟩ | ⟨holding, committed, waiting, origin, orderly, told⟩
      · exact Or.inl ⟨call, member, lost.imp_right fun inside =>
          ⟨inside.1, fun held => inside.2 (keeps.held later.sound known held)⟩⟩
      · refine Or.inr ⟨holding, committed, waiting, origin, orderly.keeps (origin.id ▸ keeps), fun spares => ?_⟩
        intro call member result ended changed
        have before := told spares call member result ended changed
        by_cases moves : w.movesOn request.id event = true
        · rw [still moves]
          exact before
        · exact later.ticketIs_iff.1 (spares allowed taken (by simpa using moves) _ (holds.ticketIs_iff.2 before))
  | submitted made calls same =>
      subst same
      rw [calls]
      rcases state with ⟨call, member, lost⟩ | ⟨holding, committed, waiting, origin, orderly, told⟩
      · exact Or.inl ⟨call, List.mem_append_left _ member, lost⟩
      · refine Or.inr ⟨holding, committed, waiting, origin, orderly.submitted _, fun spares => ?_⟩
        intro call member result ended
        rcases List.mem_append.1 member with old | new
        · exact told spares call old result ended
        · obtain rfl := List.mem_singleton.1 new
          cases ended
  | @advanced index call next front back before calls on knows moves =>
      have nodup := holds.tokens_nodup request.id since
      have knowsOn {another : Call} (member : another ∈ front ++ call :: back) :
          another.phase.Knows ledger request.id another.submission.token := (holds.knowsOn (before ▸ member)).2
      rw [before] at state nodup
      rw [calls]
      rcases state with ⟨another, member, lost⟩ | ⟨holding, committed, waiting, origin, orderly, told⟩
      · refine Or.inl ?_
        rcases mem_middle_iff.1 member with rfl | beside
        · exact ⟨_, mem_middle_iff.2 (Or.inl rfl), lost.advanced knows moves⟩
        · exact ⟨another, mem_middle_iff.2 (Or.inr beside), lost.stable
            ((moves.submitted knows).spares holds.sound (ne_of_nodup nodup another beside))⟩
      · rw [← origin.id] at moves knowsOn
        refine ((orderly.advanced holds.sound nodup moves).of_origin origin).imp_right ?_
        rintro ⟨moved, more, other, further, still⟩
        exact ⟨moved, more, other, further, still, fun spares => (told spares).advanced orderly origin.ticketId
          holds.sound holds.linked (fun _ member => knowsOn member) moves⟩
  | cut here before calls on same =>
      rw [calls]
      exact Or.inl (Ledger.doomed_of_failed (Phase.outcome?_cutOff _) _)

/-- A fresh request is in order. -/
theorem Fresh.ordered (fresh : w.Fresh request) (holds : w.Holds ledger) :
    Ordered environment order request w.calls.length w ledger := by
  obtain ⟨holding, rfl, inStep⟩ := fresh.inStep holds
  refine ⟨⟨holding, inStep.member, rfl⟩, Or.inr ⟨holding, [], none, .refl _, ?_, fun _ call member => ?_⟩⟩
  · rw [callsOn_length]
    refine ⟨inStep, fun call member => ?_, Or.inl rfl, .nil, ?_⟩
    · cases member
    · rw [fresh.pending]
      rfl
  · rw [callsOn_length] at member
    cases member

/-- What the submissions on the request of an id report that succeeded, but for those among so many that were made
first. -/
def resultsOn (w : World) (id : String) (since : Nat) : List ActionResult :=
  (w.callsOn id since).filterMap Call.reported?

/-- Submissions that have succeeded have taken turns. -/
theorem Ordered.turns (ordered : Ordered environment order request since w ledger)
    (succeed : ∀ call ∈ w.callsOn request.id since, ∃ result, call.phase = .done (.ok result)) :
    ∃ holding committed waiting, request.SameOrigin holding.request ∧
      ledger.Orderly holding committed waiting (w.callsOn request.id since) ∧
      (SparesTicket environment order request → ledger.Told request.ticketId (w.callsOn request.id since)) := by
  refine ordered.2.resolve_left ?_
  rintro ⟨call, member, lost⟩
  obtain ⟨result, ended⟩ := succeed call member
  rw [ended] at lost
  obtain ⟨failure, failed⟩ | ⟨inside, -⟩ := lost
  · cases failed
  · cases inside

/-- When submissions that succeeded have told the ticket of a request what they decided, and one of them changed the
status, the ticket stands as the request does. -/
theorem Holds.ticketIs_of_told {holding : Holding} {result : ActionResult} (holds : w.Holds ledger)
    (told : ledger.Told request.ticketId (w.callsOn request.id since))
    (succeed : ∀ call ∈ w.callsOn request.id since, ∃ result, call.phase = .done (.ok result))
    (member : holding ∈ ledger.requests) (origin : request.SameOrigin holding.request)
    (reported : result ∈ w.resultsOn request.id since) (changed : result.statusChanged = true) :
    w.TicketIs request.ticketId holding.request.status.ticketStatus := by
  obtain ⟨call, within, reports⟩ := List.mem_filterMap.1 reported
  obtain ⟨other, ended⟩ := succeed call within
  rw [Call.reported?, ended] at reports
  obtain rfl : other = result := Option.some.inj reports
  have mark := told call within other ended changed
  have knows := (holds.knowsOn within).2
  rw [ended] at knows
  obtain ⟨about, decided⟩ := knows other rfl
  obtain ⟨-, there, known, stored⟩ := decided changed
  rw [← stored, holds.sound.eq_of_id known member
    ((congrArg Request.id stored).trans (about.trans origin.id.symm))] at mark
  exact holds.ticketIs_iff.2 mark

/-- When the required roles approve a fresh request at the same time, each once and nobody else, and all of these
submissions succeed, in whatever order their steps and those of all other commands and submissions happen, then exactly
one of them changes the status. The request is approved, and has a version more than there are roles. The trail has one
approval of every role and nothing else, in the places one, two, three and so on, which is the order of the commits: the
version that a submission reports is the next one after the place of its action. And the ticket of the request is
approved, if nothing but these submissions changes where it stands. -/
theorem approvals_decide_once (reached : Runs environment anyOrder start w₀) (fresh : w₀.Fresh request)
    (required : request.approvers ≠ []) (runs : Runs environment order w₀ w)
    (approvals : ((w.callsOn request.id w₀.calls.length).map fun call =>
      (call.submission.role, call.submission.decision)).Perm (request.approvers.map fun role => (.text role, .approve)))
    (succeed : ∀ call ∈ w.callsOn request.id w₀.calls.length, ∃ result, call.phase = .done (.ok result)) :
    (w.resultsOn request.id w₀.calls.length).countP ActionResult.statusChanged = 1 ∧
    (∃ final, w.Stores final ∧ request.SameOrigin final ∧ final.status = .approved ∧
      final.version = request.approvers.length + 1) ∧
    ((w.history request.id).map Action.step).Perm (request.approvers.map fun role => (role, .approve)) ∧
    Action.Numbered (w.history request.id) ∧
    (w.history request.id).Perm ((w.resultsOn request.id w₀.calls.length).map fun result => result.action.kept) ∧
    (∀ result ∈ w.resultsOn request.id w₀.calls.length, result.request.version = result.action.sequence + 1) ∧
    (SparesTicket environment order request → w.TicketIs request.ticketId .approved) := by
  obtain ⟨first, holdsFirst, -⟩ := reached.holds holds_start
  obtain ⟨last, holds, -, -, ordered⟩ := runs.preserves
    (P := fun w ledger => w.Quiet request.id w₀.calls.length ∧
      Ordered environment order request w₀.calls.length w ledger)
    (fun holds known allowed taken changes later => ⟨changes.quiet known.1,
      changes.ordered holds later known.1 allowed taken known.2⟩)
    holdsFirst ⟨fresh.quiet_calls, fresh.ordered holdsFirst⟩
  obtain ⟨holding, committed, waiting, origin, orderly, told⟩ := ordered.turns succeed
  obtain ⟨rfl, steps, versions⟩ := orderly.settled succeed
  rw [steps] at approvals
  have trail := orderly.trail_of_approvals approvals
  have status : holding.request.status = .approved :=
    orderly.inStep.approved_of_trail (origin.approvers ▸ required) (origin.approvers ▸ trail)
  have once : (w.resultsOn request.id w₀.calls.length).countP ActionResult.statusChanged = 1 := by
    have changed := orderly.changed
    rwa [status] at changed
  have count : committed.length = request.approvers.length := by
    have lengths := trail.length_eq
    rwa [List.length_map, List.length_map] at lengths
  obtain ⟨history, numbered⟩ := holds.history_of_inStep orderly.inStep
  rw [origin.id] at history
  rw [history]
  refine ⟨once, ⟨holding.request, holds.stores_iff.2 ⟨holding, orderly.inStep.member, rfl⟩, origin, status, ?_⟩,
    trail, numbered, orderly.reports, versions, fun spares => ?_⟩
  · rw [orderly.inStep.version, count]
  · obtain ⟨result, member, changed⟩ := List.countP_pos_iff.1 (Nat.lt_of_lt_of_eq Nat.zero_lt_one once.symm)
    have stands := holds.ticketIs_of_told (told spares) succeed orderly.inStep.member origin member changed
    rwa [status] at stands

/-! ### Two roles at a time -/

/-- Nothing happens but submissions on the request of an id, while the clock and the outage may change. -/
def onlyOn (id : String) : Order := fun w event =>
  match event with
  | .command _ => false
  | .shift _ => true
  | .submit requestId _ _ _ _ => requestId == id
  | .advance index => w.movesOn id (.advance index)
  | .cut index => w.movesOn id (.cut index)

/-- Where nothing else happens, nothing else changes a ticket. -/
theorem onlyOn_spares (environment : Session.Environment) (request : Request) :
    SparesTicket environment (onlyOn request.id) request := by
  intro w event w' allowed taken other status stands
  cases becomes_of_take taken with
  | command command => cases allowed
  | shift around => exact stands
  | submit => exact stands
  | @advance index => rw [show w.movesOn request.id (.advance index) = true from allowed] at other; cases other
  | @cut index => rw [show w.movesOn request.id (.cut index) = true from allowed] at other; cases other

end World

namespace Trial

/-- Two roles approve. The second one finds the lease taken, waits, and gets it when the first one is over. -/
def approveTogether : List World.Event :=
  [acts "X" .approve, acts "Y" .approve] ++ goesOn 0 3 ++ goesOn 1 3 ++ goesOn 0 5 ++ goesOn 1 8

end Trial

namespace World

/-- Two roles approve at the same time, both succeed, and one of them changes the status. -/
theorem approvals_decide_once_of_two_approvals :
    ∃ w₀ w request, Runs Trial.environment anyOrder start w₀ ∧ w₀.Fresh request ∧ w₀.calls.length = 0 ∧
      request.approvers = ["X", "Y"] ∧ Runs Trial.environment (onlyOn request.id) w₀ w ∧
      (w.callsOn request.id 0).length = 2 ∧
      (w.resultsOn request.id 0).countP ActionResult.statusChanged = 1 ∧ w.TicketIs request.ticketId .approved := by
  obtain ⟨before, step, w₀, request, w, early, opens, -, unasked, asked, runs, found⟩ :=
    exists_of_opensThen (onlyOn Trial.requestId) ["X", "Y"]
      (fun request => request.id == Trial.requestId && request.approvers == ["X", "Y"]) Trial.approveTogether
      (fun w => ((w.callsOn Trial.requestId 0).map fun call =>
          (call.submission.role.text?, call.submission.decision)) == [(some "X", .approve), (some "Y", .approve)] &&
        (w.callsOn Trial.requestId 0).all fun call => call.isDone && call.reported?.isSome)
      (show (start.play Trial.environment anyOrder (Trial.opening ["X", "Y"]).dropLast).any _ = true by decide +kernel)
  obtain ⟨named, roles⟩ := Bool.and_eq_true_iff.1 asked
  obtain ⟨made, ended⟩ := Bool.and_eq_true_iff.1 found
  have named : request.id = Trial.requestId := beq_iff_eq.1 named
  have roles : request.approvers = ["X", "Y"] := beq_iff_eq.1 roles
  have none : w₀.calls.length = 0 := by rw [unasked, List.length_nil]
  have reached : Runs Trial.environment anyOrder start w₀ := .next early (.command step) rfl opens.command
  have fresh : w₀.Fresh request := .of_opens opens early fun call member => by
    rw [unasked] at member
    cases member
  rw [← named] at runs made ended
  have approvals : ((w.callsOn request.id w₀.calls.length).map fun call =>
      (call.submission.role, call.submission.decision)).Perm
        (request.approvers.map fun role => (.text role, .approve)) := by
    obtain ⟨one, rest, both, first, made⟩ := List.map_eq_cons_iff.1 (beq_iff_eq.1 made)
    obtain ⟨two, others, rfl, second, made⟩ := List.map_eq_cons_iff.1 made
    obtain rfl := List.map_eq_nil_iff.1 made
    obtain ⟨roleOne, decisionOne⟩ := Prod.mk.inj first
    obtain ⟨roleTwo, decisionTwo⟩ := Prod.mk.inj second
    rw [none, both, roles, List.map_cons, List.map_cons, List.map_nil, Value.text?_eq_some_iff.1 roleOne,
      Value.text?_eq_some_iff.1 roleTwo, decisionOne, decisionTwo]
    rfl
  have succeed : ∀ call ∈ w.callsOn request.id w₀.calls.length, ∃ result, call.phase = .done (.ok result) := by
    rw [none]
    intro call member
    obtain ⟨complete, told⟩ := Bool.and_eq_true_iff.1 (List.all_eq_true.1 ended call member)
    exact call.exists_done_of_reported? complete told
  obtain ⟨once, -, -, -, -, -, told⟩ := approvals_decide_once reached fresh (by simp [roles]) runs approvals succeed
  rw [none] at once
  have two : (w.callsOn request.id 0).length = 2 := by
    have lengths := congrArg List.length (beq_iff_eq.1 made)
    rwa [List.length_map] at lengths
  exact ⟨w₀, w, request, reached, fresh, none, roles, runs, two, once, told (onlyOn_spares _ _)⟩

end World

end Countersign
