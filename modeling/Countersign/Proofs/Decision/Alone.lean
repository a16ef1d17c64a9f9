/-
Module: Countersign.Proofs.Decision.Alone
Purpose: What a submission that goes on alone makes of its request, and where it comes to its end.
Main exports: Ledger.Rests, Stage.Ready.claims, Stage.Ready.takes, Stage.Inside, Stage.Inside.informs,
  Stage.Inside.agrees, Stage.Inside.restores, Stage.Inside.answers, Stage.Inside.concludes
-/
import Countersign.Proofs.Decision.Fencing
import Countersign.Proofs.Submission.Engagement
import Countersign.Proofs.Submission.Passages

namespace Countersign

open Service

/-!
A submission that has the lease, and that nobody interrupts while the store is up, brings its request in line with
its history, checks its action, and records and commits it, or it is refused. Only one thing may be in the way of a
status that it writes: the key that goes with a decision is the id of the request, and a pending request has the id
of its ticket as its key.
-/

namespace Ledger

variable {ledger : Ledger} {request other : Request} {trail actions : List Action} {ticket status : TicketStatus}

/-- Where a request stands, with what was done on it and with its ticket. -/
structure Rests (ledger : Ledger) (request : Request) (trail : List Action) (ticket : TicketStatus) : Prop where
  stored : ∃ holding ∈ ledger.requests, holding.request = request
  trail : ledger.history request.id = trail
  ticket : ⟨request.ticketId, ticket⟩ ∈ ledger.tickets

namespace Rests

/-- Leases do not count. -/
theorem leased (rests : ledger.Rests request trail ticket) {id : String} {f : Holding → Holding}
    (kept : ∀ holding : Holding, (f holding).request = holding.request) :
    (ledger.onRequest id f).Rests request trail ticket := by
  obtain ⟨holding, member, same⟩ := rests.stored
  refine ⟨⟨_, mem_onRequest.2 ⟨holding, member, rfl⟩, ?_⟩, rests.trail, rests.ticket⟩
  split
  · exact (kept holding).trans same
  · exact same

/-- An action in the next place comes behind all others. -/
theorem append (rests : ledger.Rests request trail ticket) (sequenced : ledger.Sequenced) {action : Action}
    (about : action.requestId = request.id) (placed : action.sequence = trail.length + 1) :
    (ledger.append action).Rests request (trail ++ [action]) ticket := by
  refine ⟨rests.stored, ?_, rests.ticket⟩
  rw [sequenced.history_append about (by rw [rests.trail]; exact placed), rests.trail]

theorem moved (rests : ledger.Rests request trail ticket) (status : ApprovalStatus) (time : Moment)
    (releasing : Bool) :
    (ledger.move request.id status time releasing).Rests (request.moved status time) trail ticket := by
  obtain ⟨holding, member, rfl⟩ := rests.stored
  exact ⟨⟨_, mem_onRequest.2 ⟨holding, member, if_pos rfl⟩, rfl⟩, rests.trail, rests.ticket⟩

theorem told (rests : ledger.Rests request trail ticket) (status : TicketStatus) :
    (ledger.tell request.ticketId status).Rests request trail status :=
  ⟨rests.stored, rests.trail, mem_tell.2 ⟨_, rests.ticket, if_pos rfl⟩⟩

end Rests

/-- Every request rests somewhere. -/
theorem Linked.exists_rests {taken : Nat} (linked : ledger.Linked taken) {holding : Holding}
    (member : holding ∈ ledger.requests) :
    ∃ ticket, ledger.Rests holding.request (ledger.history holding.request.id) ticket := by
  obtain ⟨mark, there, same⟩ := List.mem_map.1 (linked.ticketed holding member)
  exact ⟨mark.status, ⟨holding, member, rfl⟩, rfl, same ▸ there⟩

end Ledger

namespace Phase

/-- Whether a submission still seeks the lease. -/
def isSeeking : Phase → Bool
  | claiming _ => true
  | probing _ => true
  | waiting _ => true
  | _ => false

end Phase

/-- Where a ticket stands after a submission that found its request pending and gave it a status. -/
def ApprovalStatus.tells (status : ApprovalStatus) (ticket : TicketStatus) : TicketStatus :=
  if status.isTerminal then status.ticketStatus else ticket

namespace Stage

variable {call : Submission} {id : String} {stage : Stage} {ledger : Ledger} {s : ServiceState} {request : Request}
  {history : List Action} {holding : Holding}

/-! ### Taking the lease -/

/-- A submission that has just taken the lease on a request of a ledger. -/
structure Takes (call : Submission) (id : String) (ledger : Ledger) (holding : Holding) (stage : Stage) : Prop where
  member : holding ∈ ledger.requests
  same : holding.request.id = id
  leased : ∃ ends, stage.ledger = ledger.lease id ⟨call.token, ends⟩
  phase : stage.phase = .leased holding.request

namespace Ready

/-- A submission that seeks the lease takes it, or seeks on, or comes to its end. -/
theorem seeks (ready : stage.Ready call id) (seeking : stage.phase.isSeeking = true) :
    ∃ next, Next call id stage next ∧
      ((next.ledger = stage.ledger ∧ next.phase.isSeeking = true ∧ ∀ point ∈ next.phase.point?, point = .afterBusy) ∨
        (∃ failure, next.phase = .done (.error failure)) ∨
        ∃ holding, Takes call id stage.ledger holding next) := by
  obtain ⟨ledger, s, phase⟩ := stage
  obtain ⟨after, s', next, goes, moves⟩ := ready.exists_moves
  refine ⟨_, goes, ?_⟩
  cases moves with
  | failed failure fails =>
      refine Or.inr (Or.inl ⟨failure, ?_⟩)
      cases phase <;> first | rfl | cases seeking
  | leased holding member same time free => exact Or.inr (Or.inr ⟨holding, member, same, ⟨_, rfl⟩, rfl⟩)
  | busy taken => exact Or.inl ⟨rfl, rfl, fun point here => by cases here⟩
  | probed => exact Or.inl ⟨rfl, rfl, fun point here => (Option.some.inj here).symm⟩
  | waited => exact Or.inl ⟨rfl, rfl, fun point here => by cases here⟩
  | _ => cases seeking

/-- So it comes to have the lease at some step, or to its end. -/
theorem claims (ready : stage.Ready call id) (seeking : stage.phase.isSeeking = true) :
    ∃ points last next, Passes call id points stage last ∧ (∀ point ∈ points, point = .afterBusy) ∧
      Next call id last next ∧
      ((∃ failure, next.phase = .done (.error failure)) ∨ ∃ holding, Takes call id stage.ledger holding next) := by
  induction rank : stage.phase.rank call using Nat.strongRecOn generalizing stage with
  | ind bound ih =>
      subst rank
      obtain ⟨next, goes, ⟨same, still, busy⟩ | ⟨failure, ended⟩ | taken⟩ := ready.seeks seeking
      · have running : 0 < stage.phase.rank call := by
          by_contra none
          obtain ⟨outcome, ended⟩ := Phase.eq_done_of_rank (Nat.eq_zero_of_not_pos none)
          rw [ended] at seeking
          cases seeking
        obtain ⟨points, last, later, passes, all, goesOn, comes⟩ :=
          ih _ (ready.below goes running).2 (ready.after goes) still rfl
        refine ⟨_, last, later, .on goes passes, ?_, goesOn, same ▸ comes⟩
        intro point member
        rcases List.mem_append.1 member with here | behind
        · exact busy point (Option.mem_toList.1 here)
        · exact all point behind
      · exact ⟨[], stage, next, .stay _, by simp, goes, Or.inl ⟨failure, ended⟩⟩
      · exact ⟨[], stage, next, .stay _, by simp, goes, Or.inr taken⟩

/-- A lease that is free is taken at once. -/
theorem takes (ready : Ready call id ⟨ledger, s, .claiming 0⟩) (left : 0 < call.terms.attempts)
    (member : holding ∈ ledger.requests) (same : holding.request.id = id)
    (free : holding.isFree (RequestStore.secondsAt s) = true) :
    ∃ next, Next call id ⟨ledger, s, .claiming 0⟩ next ∧ Takes call id ledger holding next := by
  subst same
  obtain ⟨after, s', next, goes, moves⟩ := ready.exists_moves
  refine ⟨_, goes, ?_⟩
  have took : next = .leased holding.request := by
    obtain ⟨table, claimed, -⟩ :=
      RequestStore.exec_claim?_free ready.up ready.shown member free ready.on.whole call.terms.length
    have spent : ¬ call.terms.attempts ≤ (0 : Nat) := by omega
    have advanced : exec ((Phase.claiming 0).advance call) s =
        (.ok (.leased holding.request), { s with store := s.store.setTable .requests table }) := by
      rw [Phase.advance, if_neg spent, ready.on.requestId, exec_bind_ok claimed]
      rfl
    have ran := goes.ran.symm.trans (Phase.exec_step_ok advanced)
    exact Except.ok.inj (Prod.mk.inj ran).1
  cases moves with
  | leased other within about time free =>
      obtain rfl := ready.shown.sound.eq_of_id within member about
      exact ⟨within, rfl, ⟨_, rfl⟩, took⟩
  | failed failure fails => cases took
  | busy taken => cases took

end Ready

/-! ### Under the lease -/

/-- A submission that has had the lease on a request since it began in a ledger, and where the request rests. -/
structure Inside (call : Submission) (start : Ledger) (request : Request) (trail : List Action)
    (ticket : TicketStatus) (stage : Stage) : Prop where
  ready : stage.Ready call request.id
  sequenced : stage.ledger.Sequenced
  held : ∃ holding ∈ stage.ledger.requests, holding.request = request ∧ holding.holder? = some call.token
  rests : stage.ledger.Rests request trail ticket
  rivals : stage.ledger.Contended request.id → start.Contended request.id

variable {start : Ledger} {trail : List Action} {ticket : TicketStatus} {action : Action}

/-- Whoever has just taken the lease is inside. -/
theorem Takes.inside (takes : Takes call id ledger holding stage) (ready : stage.Ready call id)
    (sequenced : ledger.Sequenced) (rests : ledger.Rests holding.request trail ticket) :
    stage.Inside call ledger holding.request trail ticket := by
  obtain ⟨member, rfl, ⟨ends, leased⟩, -⟩ := takes
  have there : { holding with lease := some ⟨call.token, ends⟩ } ∈ stage.ledger.requests := by
    rw [leased]
    exact Ledger.mem_onRequest_self member rfl
  refine ⟨ready, ?_, ⟨_, there, rfl, rfl⟩, ?_, ?_⟩
  · rw [leased]
    exact sequenced
  · rw [leased]
    exact rests.leased fun _ => rfl
  · rw [leased]
    exact Ledger.Contended.of_onRequest fun _ _ _ waits => ⟨waits, rfl, rfl⟩

namespace Inside

/-- A step that leaves the ledger as it is leaves the request where it rests. -/
theorem still (inside : stage.Inside call start request trail ticket) {next : Stage}
    (goes : Next call request.id stage next) (same : next.ledger = stage.ledger) :
    next.Inside call start request trail ticket := by
  refine ⟨inside.ready.after goes, ?_, ?_, ?_, ?_⟩
  · rw [same]
    exact inside.sequenced
  · rw [same]
    exact inside.held
  · rw [same]
    exact inside.rests
  · rw [same]
    exact inside.rivals

/-- The history is read. -/
theorem informs (inside : stage.Inside call start request trail ticket) (here : stage.phase = .leased request) :
    ∃ next, Next call request.id stage next ∧ next.Inside call start request trail ticket ∧
      next.phase = .informed request trail := by
  obtain ⟨after, s', next, goes, moves⟩ := inside.ready.exists_moves
  rw [here] at moves
  cases moves with
  | failed failure fails =>
      cases fails with
      | unreached isDown => cases isDown
  | informed => exact ⟨_, goes, inside.still goes rfl, congrArg (Phase.informed request) inside.rests.trail⟩

/-- A request in line with its history stays as it is. -/
theorem agrees (inside : stage.Inside call start request trail ticket)
    (here : stage.phase = .informed request trail)
    (inLine : request.status.isTerminal = true ∨ request.status = Submission.derived request trail) :
    ∃ next, Next call request.id stage next ∧ next.Inside call start request trail ticket ∧
      next.phase = .judging request trail := by
  obtain ⟨after, s', next, goes, moves⟩ := inside.ready.exists_moves
  rw [here] at moves
  cases moves with
  | failed failure fails =>
      cases fails with
      | unreached isDown => cases isDown
  | agreed same => exact ⟨_, goes, inside.still goes rfl, rfl⟩
  | lagging pending drifted holding member same clock =>
      rw [pending] at inLine
      exact absurd (inLine.resolve_left (by simp [ApprovalStatus.isTerminal])).symm drifted

/-- An action that something is held against ends the submission. -/
theorem objects (inside : stage.Inside call start request trail ticket)
    (here : stage.phase = .judging request trail) {refusal : Refusal}
    (objection : call.objection? request trail = some refusal) :
    ∃ next, Next call request.id stage next ∧ next.Inside call start request trail ticket ∧
      ∃ failure, next.phase = .releasing (.error failure) := by
  obtain ⟨after, s', next, goes, moves⟩ := inside.ready.exists_moves
  rw [here] at moves
  cases moves with
  | failed failure fails => exact ⟨_, goes, inside.still goes rfl, failure, rfl⟩
  | recorded action fine recorded kept =>
      rw [fine] at objection
      cases objection

/-- Another action is recorded in the next place, unless the store does not keep what it says. -/
theorem judges (inside : stage.Inside call start request trail ticket)
    (here : stage.phase = .judging request trail) (fine : call.objection? request trail = none) :
    ∃ next, Next call request.id stage next ∧
      ((Trail.isKept call.role call.comment (trail.length + 1 : Nat) = false ∧
          next.Inside call start request trail ticket ∧ ∃ failure, next.phase = .releasing (.error failure)) ∨
        ∃ action, call.Accepts request trail action ∧
          next.Inside call start request (trail ++ [action.kept]) ticket ∧
          next.phase = .recorded request trail action) := by
  obtain ⟨after, s', next, goes, moves⟩ := inside.ready.exists_moves
  rw [here] at moves
  refine ⟨_, goes, ?_⟩
  cases moves with
  | failed failure fails =>
      refine Or.inl ⟨?_, inside.still goes rfl, failure, rfl⟩
      cases fails with
      | unreached isDown => cases isDown
      | objected objection =>
          rw [fine] at objection
          cases objection
      | missed number _ fresh misses =>
          obtain ⟨holding, member, rfl, -⟩ := inside.held
          refine (Submission.unkept_of_misses fine inside.ready.linked member ?_ fresh misses).1
          rw [← inside.rests.trail]
          exact (stage.ledger.history_perm _).symm.subset
  | recorded action _ recorded kept =>
      refine Or.inr ⟨action, ⟨fine, recorded, kept⟩, ⟨inside.ready.after goes, ?_, inside.held, ?_, inside.rivals⟩, rfl⟩
      · refine inside.sequenced.append (Int.le_of_eq ?_)
        rw [show action.kept.requestId = request.id from recorded.requestId, inside.rests.trail]
        exact recorded.sequence
      · exact inside.rests.append inside.sequenced recorded.requestId recorded.sequence

/-! ### Bringing a request in line -/

/-- The ticket of a request that lags behind its history is read. -/
theorem lags (inside : stage.Inside call start request trail ticket) (here : stage.phase = .informed request trail)
    (drifted : request.status.isTerminal = false ∧ request.status ≠ Submission.derived request trail) :
    ∃ next time, Next call request.id stage next ∧ next.Inside call start request trail ticket ∧
      next.phase = .restoring request trail request.ticketId time ∧ time.leavesCalendar = false := by
  obtain ⟨after, s', next, goes, moves⟩ := inside.ready.exists_moves
  have knows := (inside.ready.after goes).knows
  rw [here] at moves
  cases moves with
  | failed failure fails =>
      cases fails with
      | unreached isDown => cases isDown
  | agreed inLine =>
      rcases inLine with terminal | same
      · exact absurd terminal (by simp [drifted.1])
      · exact absurd same drifted.2
  | lagging pending _ holding member same clock =>
      obtain ⟨-, -, -, -, sameTicket, within⟩ := knows
      exact ⟨_, _, goes, inside.still goes rfl, by rw [sameTicket], within⟩

/-- Its status is written, unless another request waits for a ticket of its id. -/
theorem restores (inside : stage.Inside call start request trail ticket) {time : Moment}
    (here : stage.phase = .restoring request trail request.ticketId time) (within : time.leavesCalendar = false)
    (pending : request.status = .pending) :
    ∃ next, Next call request.id stage next ∧
      ((start.Contended request.id ∧ next.Inside call start request trail ticket ∧
          ∃ failure, next.phase = .releasing (.error failure)) ∨
        (next.Inside call start (request.moved (Submission.derived request trail) time) trail ticket ∧
          next.phase = .spreading (request.moved (Submission.derived request trail) time) trail)) := by
  obtain ⟨after, s', next, goes, moves⟩ := inside.ready.exists_moves
  obtain ⟨holding, member, rfl, held⟩ := inside.held
  have ran {phase : Phase} {s : ServiceState}
      (taken : exec ((Phase.restoring holding.request trail holding.request.ticketId time).step call) stage.state =
        (.ok phase, s)) : next = phase := by
    rw [← here] at taken
    exact Except.ok.inj (Prod.mk.inj (goes.ran.symm.trans taken)).1
  refine ⟨_, goes, ?_⟩
  rw [here] at moves
  rcases RequestStore.exec_write?_held inside.ready.up inside.ready.shown member held
    (Submission.derived holding.request trail) within false with
    ⟨-, table, journal, written, -⟩ | ⟨⟨other, there, different, taken⟩, failed⟩
  · have spreads := ran (Phase.exec_step_ok (by rw [Phase.advance, exec_bind_ok written]; rfl))
    cases moves with
    | failed failure fails => cases spreads
    | restored up moved known same holds =>
        obtain rfl := inside.ready.shown.sound.eq_of_id known member same
        refine Or.inr ⟨⟨inside.ready.after goes, inside.sequenced, ?_, ?_, ?_⟩, rfl⟩
        · exact ⟨_, Ledger.mem_onRequest_self member rfl, rfl, held⟩
        · exact inside.rests.moved _ _ _
        · refine fun contended => inside.rivals (Ledger.Contended.of_onRequest (fun other there same _ => ?_) contended)
          obtain rfl := inside.ready.shown.sound.eq_of_id there known same
          exact ⟨pending, rfl, rfl⟩
  · have gives := ran (Phase.exec_step_error (by rw [Phase.advance, exec_bind_error failed]))
    cases moves with
    | failed failure fails =>
        refine Or.inl ⟨inside.rivals ?_, inside.still goes rfl, failure, rfl⟩
        by_contra apart
        exact inside.ready.shown.sound.moved_key_free member pending apart there different _ _ _ taken
    | restored up moved known same holds => cases gives

/-- Its ticket is told. -/
theorem spreads (inside : stage.Inside call start request trail ticket)
    (here : stage.phase = .spreading request trail) :
    ∃ next, Next call request.id stage next ∧
      next.Inside call start request trail request.status.ticketStatus ∧ next.phase = .judging request trail := by
  obtain ⟨after, s', next, goes, moves⟩ := inside.ready.exists_moves
  rw [here] at moves
  cases moves with
  | failed failure fails =>
      cases fails with
      | unreached isDown => cases isDown
  | spread up =>
      exact ⟨_, goes, ⟨inside.ready.after goes, inside.sequenced, inside.held, inside.rests.told _, inside.rivals⟩, rfl⟩

/-! ### The commit -/

/-- The ticket of a request on which an action was recorded is read. -/
theorem looks {history : List Action} (inside : stage.Inside call start request trail ticket)
    (here : stage.phase = .recorded request history action) :
    ∃ next time, Next call request.id stage next ∧ next.Inside call start request trail ticket ∧
      next.phase = .committing request history action request.ticketId time := by
  obtain ⟨after, s', next, goes, moves⟩ := inside.ready.exists_moves
  have knows := (inside.ready.after goes).knows
  rw [here] at moves
  cases moves with
  | failed failure fails =>
      cases fails with
      | unreached isDown => cases isDown
  | looked holding member same clock =>
      obtain ⟨-, -, -, sameTicket, -⟩ := knows
      exact ⟨_, _, goes, inside.still goes rfl, by rw [sameTicket]⟩

/-- The action is committed, unless another request waits for a ticket of the id of its request. -/
theorem commits {history : List Action} (inside : stage.Inside call start request (history ++ [action.kept]) ticket)
    {time : Moment} (here : stage.phase = .committing request history action request.ticketId time)
    (pending : request.status = .pending) {status : ApprovalStatus}
    (derived : status = Submission.derived request (history ++ [action.kept])) :
    ∃ next, Next call request.id stage next ∧
      ((start.Contended request.id ∧ next.Inside call start request (history ++ [action.kept]) ticket ∧
          ∃ failure, next.phase = .releasing (.error failure)) ∨
        (next.ledger.Rests (request.moved status time) (history ++ [action.kept]) ticket ∧
          next.phase = .releasing (.ok ⟨request.moved status time, action, .pending⟩))) := by
  obtain ⟨after, s', next, goes, moves⟩ := inside.ready.exists_moves
  obtain ⟨holding, member, rfl, held⟩ := inside.held
  rw [here] at moves
  refine ⟨_, goes, ?_⟩
  cases moves with
  | failed failure fails =>
      refine Or.inl ⟨inside.rivals ?_, inside.still goes rfl, failure, rfl⟩
      cases fails with
      | unreached isDown => cases isDown
      | lost other => exact absurd held (other holding member rfl)
      | keyTaken known same there different taken =>
          obtain rfl := inside.ready.shown.sound.eq_of_id known member same
          by_contra apart
          exact inside.ready.shown.sound.moved_key_free member pending apart there different _ _ _ taken
  | committed up moved known same holds =>
      obtain rfl := inside.ready.shown.sound.eq_of_id known member same
      rw [Submission.derived_concat, pending, derived]
      exact Or.inr ⟨inside.rests.moved _ _ _, rfl⟩

end Inside

/-! ### The end -/

/-- Whoever gives up the lease leaves the request where it rests. -/
theorem Ready.releases (ready : stage.Ready call id) {outcome : Except Failure ActionResult}
    (here : stage.phase = .releasing outcome) (rests : stage.ledger.Rests request trail ticket) :
    ∃ next, Next call id stage next ∧ next.ledger.Rests request trail ticket ∧
      next.phase = Phase.afterRelease outcome := by
  obtain ⟨after, s', next, goes, moves⟩ := ready.exists_moves
  rw [here] at moves
  cases moves with
  | failed failure fails =>
      cases fails with
      | unreached isDown => cases isDown
  | released up holding member same held => exact ⟨_, goes, rests.leased fun _ => rfl, rfl⟩
  | lost up other => exact ⟨_, goes, rests, rfl⟩

/-- Whoever has decided the request tells its ticket. -/
theorem Ready.announces (ready : stage.Ready call id) {result : ActionResult}
    (here : stage.phase = .announcing result) (rests : stage.ledger.Rests result.request trail ticket) :
    ∃ next, Next call id stage next ∧ next.phase = .done (.ok result) ∧ next.ledger.Rests result.request trail
      (if result.statusChanged then result.request.status.ticketStatus else ticket) := by
  obtain ⟨after, s', next, goes, moves⟩ := ready.exists_moves
  rw [here] at moves
  cases moves with
  | failed failure fails =>
      cases fails with
      | unreached isDown => cases isDown
  | announced changed up =>
      rw [if_pos changed]
      exact ⟨_, goes, rfl, rests.told _⟩
  | quiet unchanged =>
      rw [if_neg (by simp [unchanged])]
      exact ⟨_, goes, rfl, rests⟩

namespace Inside

/-- A submission that fails under the lease leaves the request where it rests. -/
theorem fails (inside : stage.Inside call start request trail ticket) {failure : Failure}
    (here : stage.phase = .releasing (.error failure)) :
    ∃ last, Passes call request.id [] stage last ∧ last.phase = .done (.error failure) ∧
      last.ledger.Rests request trail ticket := by
  obtain ⟨last, goes, rests, ended⟩ := inside.ready.releases here inside.rests
  exact ⟨last, .silent goes (by rw [ended]; rfl), ended, rests⟩

/-- A submission that has brought its request in line records its action, or fails and leaves the request where it
rests; then something is held against the action, or the store does not keep it. -/
theorem answers (inside : stage.Inside call start request trail ticket) (here : stage.phase = .judging request trail) :
    (∃ last failure, Passes call request.id [] stage last ∧ last.phase = .done (.error failure) ∧
        last.ledger.Rests request trail ticket ∧ (call.objection? request trail = none →
          Trail.isKept call.role call.comment (trail.length + 1 : Nat) = false)) ∨
      ∃ action next, Next call request.id stage next ∧ call.Accepts request trail action ∧
        next.Inside call start request (trail ++ [action.kept]) ticket ∧
        next.phase = .recorded request trail action := by
  cases objection : call.objection? request trail with
  | some refusal =>
      obtain ⟨next, objects, inside, failure, gives⟩ := inside.objects here objection
      obtain ⟨last, passes, ended, rests⟩ := inside.fails gives
      exact Or.inl ⟨last, failure, .quietly objects (by rw [gives]; rfl) passes, ended, rests,
        fun none => by cases none⟩
  | none =>
      obtain ⟨next, goes, ⟨unkept, inside, failure, gives⟩ | ⟨action, accepts, inside, recorded⟩⟩ :=
        inside.judges here objection
      · obtain ⟨last, passes, ended, rests⟩ := inside.fails gives
        exact Or.inl ⟨last, failure, .quietly goes (by rw [gives]; rfl) passes, ended, rests, fun _ => unkept⟩
      · exact Or.inr ⟨action, next, goes, accepts, inside, recorded⟩

/-- A submission whose action was recorded commits it and tells the ticket of a decision, unless another request waits
for a ticket of the id of its request. -/
theorem concludes {history : List Action} (inside : stage.Inside call start request (history ++ [action.kept]) ticket)
    (here : stage.phase = .recorded request history action) {status : ApprovalStatus}
    (derived : status = Submission.derived request (history ++ [action.kept])) :
    ∃ last, Passes call request.id [] stage last ∧
      ((start.Contended request.id ∧ ∃ failure, last.phase = .done (.error failure)) ∨
        ∃ time result, last.phase = .done (.ok result) ∧
          last.ledger.Rests (request.moved status time) (history ++ [action.kept]) (status.tells ticket)) := by
  have pending : request.status = .pending := by
    have knows := inside.ready.knows
    rw [here] at knows
    exact knows.2.2
  obtain ⟨middle, time, looks, inside, committing⟩ := inside.looks here
  obtain ⟨next, commits, ⟨contended, inside, failure, gives⟩ | ⟨rests, gives⟩⟩ :=
    inside.commits committing pending derived
  · obtain ⟨last, passes, ended, -⟩ := inside.fails gives
    have passes : Passes call request.id [] stage last :=
      .quietly looks (by rw [committing]; rfl) (.quietly commits (by rw [gives]; rfl) passes)
    exact ⟨last, passes, Or.inl ⟨contended, failure, ended⟩⟩
  · obtain ⟨freed, releases, rests, announcing⟩ := (inside.ready.after commits).releases gives rests
    obtain ⟨last, announces, ended, rests⟩ :=
      (((inside.ready.after commits).after releases).announces announcing rests)
    have passes : Passes call request.id [] stage last :=
      .quietly looks (by rw [committing]; rfl) (.quietly commits (by rw [gives]; rfl)
        (.quietly releases (by rw [announcing]; rfl) (.silent announces (by rw [ended]; rfl))))
    refine ⟨last, passes, Or.inr ⟨time, _, ended, ?_⟩⟩
    have told : ActionResult.statusChanged ⟨request.moved status time, action, .pending⟩ = status.isTerminal := by
      cases status <;> rfl
    rw [told] at rests
    exact rests

end Inside

end Stage

end Countersign
