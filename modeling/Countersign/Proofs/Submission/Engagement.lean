/-
Module: Countersign.Proofs.Submission.Engagement
Purpose: What a submission does to its request while it holds the lease on it.
Main exports: Submission.Accepts, Phase.Engaged, Phase.Proceeds, Phase.Engaged.proceeds
-/
import Countersign.Proofs.Ledger.InStep
import Countersign.Proofs.Submission.Effects

namespace Countersign

/-!
Whoever holds the lease on a request that is in step with its trail has read the whole trail, finds nothing to bring
in line, and records its action in the next place. Its commit then brings the request in step again and gives up the
lease. Where it fails instead, the request stays as it is.
-/

/-- An action that was recorded for a submission on a request with a history. -/
structure Submission.Accepts (call : Submission) (request : Request) (history : List Action) (action : Action) :
    Prop where
  fine : call.objection? request history = none
  recorded : Trail.Recorded action request.id call.role call.decision (history.length + 1 : Nat)
  kept : Trail.isKept call.role call.comment (history.length + 1 : Nat) = true

/-- The store keeps of an action what the status of its request depends on. -/
theorem Submission.derived_concat (request : Request) (history : List Action) (action : Action) :
    Submission.derived request (history ++ [action]) =
      .ofActions request.approvers (history ++ [action.kept]) := by
  simp only [Submission.derived, ApprovalStatus.ofActions, List.map_append]
  rfl

namespace Phase

variable {call : Submission} {down : Bool} {ledger after : Ledger} {holding : Holding} {trail : List Action}
  {waiting : Option Action} {phase next : Phase}

/-- How far a submission is that holds the lease on a request with a trail. Its action waits for its commit as
soon as it is recorded. -/
inductive Engaged (call : Submission) (request : Request) (trail : List Action) : Option Action → Phase → Prop where
  | leased : Engaged call request trail none (.leased request)
  | informed : Engaged call request trail none (.informed request trail)
  | judging : Engaged call request trail none (.judging request trail)
  | recorded {action : Action} (accepts : call.Accepts request trail action) :
      Engaged call request trail (some action.kept) (.recorded request trail action)
  | committing {action : Action} {ticketId : String} {time : Moment}
      (accepts : call.Accepts request trail action) :
      Engaged call request trail (some action.kept) (.committing request trail action ticketId time)

/-- What a step comes to of a submission that holds the lease: it goes on under the lease, its action is committed,
or it fails and leaves everything as it is. -/
inductive Proceeds (call : Submission) (down : Bool) (ledger : Ledger) (holding : Holding) (trail : List Action)
    (phase : Phase) : Ledger → Phase → Prop where
  | engaged {after : Ledger} {next : Phase} {waiting : Option Action}
      (engaged : next.Engaged call holding.request trail waiting) (inStep : after.InStep holding trail waiting) :
      Proceeds call down ledger holding trail phase after next
  | committed {after : Ledger} {action : Action} {status : ApprovalStatus} {time : Moment}
      (accepts : call.Accepts holding.request trail action) (pending : holding.request.status = .pending)
      (inStep : after.InStep (holding.moved status time true) (trail ++ [action.kept]) none) :
      Proceeds call down ledger holding trail phase after
        (.releasing (.ok ⟨holding.request.moved status time, action, .pending⟩))
  | failed {failure : Failure} (fails : Fails call holding.request.id down ledger phase failure) :
      Proceeds call down ledger holding trail phase ledger (.releasing (.error failure))

/-- An engaged submission that fails goes on to give up the lease. -/
theorem Engaged.onFailure_eq {request : Request} (engaged : phase.Engaged call request trail waiting)
    (failure : Failure) : phase.onFailure failure = .releasing (.error failure) := by
  cases engaged <;> rfl

/-- Every step of a submission that holds the lease on a request in step with its trail. -/
theorem Engaged.proceeds (engaged : phase.Engaged call holding.request trail waiting)
    (inStep : ledger.InStep holding trail waiting) (sound : ledger.Sound)
    (moves : Moves call holding.request.id down ledger phase after next) :
    Proceeds call down ledger holding trail phase after next := by
  -- A request in step with its trail is never restored, so the phases under the lease come one after the other.
  cases moves with
  | failed failure fails =>
      rw [engaged.onFailure_eq]
      exact .failed fails
  | informed =>
      cases engaged with
      | leased =>
          rw [inStep.history_eq, Option.toList_none, List.append_nil]
          exact .engaged .informed inStep
  | agreed inLine =>
      cases engaged with
      | informed => exact .engaged .judging inStep
  | lagging pending drifted other member same clock =>
      cases engaged with
      | informed => exact absurd (inStep.status.symm.trans pending) drifted
  | recorded action fine recorded kept =>
      cases engaged with
      | judging =>
          exact .engaged (.recorded ⟨fine, recorded, kept⟩) (inStep.append recorded.requestId recorded.sequence)
  | looked other member same clock =>
      cases engaged with
      | recorded accepts => exact .engaged (.committing accepts) inStep
  | committed up other member same held =>
      cases engaged with
      | committing accepts =>
          obtain rfl := sound.eq_of_id member inStep.member same
          have pending := (Submission.of_objection?_none accepts.fine).2.1
          rw [pending]
          exact .committed accepts pending (inStep.move rfl pending (Submission.derived_concat _ _ _) _)
  | _ => cases engaged

end Phase

end Countersign
