/-
Module: Countersign.Proofs.Submission.Effects
Purpose: What a step of a submission does to the ledger, and what the submission knows after it.
Main exports: Submission.of_objection?_none, Submission.unkept_of_misses, Phase.Moves.submitted,
  Phase.Moves.knows, Phase.Moves.linked
-/
import Countersign.Proofs.Ledger.Links
import Countersign.Proofs.Submission.Phases

namespace Countersign

open Service

/-!
The request that a submission carries is the stored one as long as it holds the lease. So a status is only ever
written over a pending one, and it is the status that the actions it cites amount to.
-/

namespace Submission

variable {call : Submission} {request : Request} {history : List Action}

/-- An action that nothing is held against is one of a required role on a pending request. -/
theorem of_objection?_none (fine : call.objection? request history = none) :
    call.isRequired request.approvers = true ∧ request.status = .pending ∧
      (call.decision = .approve → call.hasApproved history = false) := by
  unfold objection? at fine
  split at fine
  · cases fine
  next required =>
    split at fine
    · cases fine
    next open_ =>
      split at fine
      · cases fine
      next fresh =>
        refine ⟨by simpa using required, ApprovalStatus.eq_pending_of_not_terminal open_, ?_⟩
        intro approves
        simpa [approves] using fresh

/-- Where the store is up and the whole trail was read, such an action is missed only because the store does not keep
what it says. -/
theorem unkept_of_misses {ledger : Ledger} {taken number : Nat} {place : Int} {failure : Failure} {holding : Holding}
    (fine : call.objection? request history = none) (linked : ledger.Linked taken)
    (member : holding ∈ ledger.requests) (whole : ledger.trailOf holding.request.id ⊆ history)
    (fresh : ∀ action ∈ ledger.actions, action.id ≠ idText "ACT" number)
    (misses : Trail.Misses ledger false holding.request.id call.role call.decision call.comment place number failure) :
    Trail.isKept call.role call.comment place = false ∧ ∀ refusal, failure ≠ .refused refusal := by
  cases misses with
  | unreached isDown => cases isDown
  | malformed faults unkept => exact ⟨unkept, fun _ same => by cases same⟩
  | unstorable fault unkept => exact ⟨unkept, fun _ same => by cases same⟩
  | taken other within shared =>
      -- The key could only be that of an earlier approval of the role, which would have been objected to.
      obtain ⟨about, step, approves⟩ := linked.eq_of_key member within (fresh other within)
        (shared.resolve_left (fresh other within))
      obtain ⟨sameRole, alsoApproves⟩ := Prod.mk.inj step
      obtain ⟨required, -, unused⟩ := of_objection?_none fine
      obtain ⟨role, read, -⟩ := (Option.any_eq_true _ _).1 required
      have named := Value.text?_eq_some_iff.1 read
      have again : call.hasApproved history = true := by
        rw [Submission.hasApproved, named]
        refine List.any_eq_true.2 ⟨other, whole (Ledger.mem_trailOf.2 ⟨within, about⟩), ?_⟩
        simp [sameRole, alsoApproves, named, Value.display]
      rw [unused approves] at again
      cases again

end Submission

namespace Ledger

variable {ledger : Ledger} {id token : String} {holding : Holding} {f : Holding → Holding}

/-- After a change of one request, the request of its id is the changed one. -/
theorem eq_of_mem_onRequest (sound : ledger.Sound) (member : holding ∈ ledger.requests)
    (same : holding.request.id = id) (kept : (f holding).request.id = holding.request.id)
    {later : Holding} (found : later ∈ (ledger.onRequest id f).requests) (about : later.request.id = id) :
    later = f holding := by
  obtain ⟨before, known, rfl⟩ := mem_onRequest.1 found
  by_cases here : before.request.id = id
  · obtain rfl := sound.eq_of_id known member (here.trans same.symm)
    rw [if_pos here]
  · rw [if_neg here] at about
    exact absurd about here

/-- The changed request is there. -/
theorem mem_onRequest_self (member : holding ∈ ledger.requests) (same : holding.request.id = id) :
    f holding ∈ (ledger.onRequest id f).requests :=
  mem_onRequest.2 ⟨holding, member, by rw [if_pos same]⟩

/-- A submission that changed a request itself carries the changed request. -/
theorem carries_onRequest (sound : ledger.Sound) (member : holding ∈ ledger.requests)
    (same : holding.request.id = id) (kept : (f holding).request.id = holding.request.id) :
    (ledger.onRequest id f).Carries id token (f holding).request := by
  refine ⟨kept.trans same, ⟨f holding, mem_onRequest_self member same, .refl _⟩, ?_⟩
  intro later found about held
  rw [eq_of_mem_onRequest sound member same kept found about]

/-- Two readings of the same request agree in what opening it fixed. -/
theorem Carries.ticketId_eq {request : Request} (sound : ledger.Sound)
    (carries : ledger.Carries id token request) (member : holding ∈ ledger.requests)
    (same : holding.request.id = id) : holding.request.ticketId = request.ticketId := by
  obtain ⟨other, known, origin⟩ := carries.origin
  obtain rfl := sound.eq_of_id known member (origin.id.trans (carries.about.trans same.symm))
  exact origin.ticketId

end Ledger

namespace Phase.Moves

variable {call : Submission} {id : String} {down : Bool} {ledger after : Ledger} {phase next : Phase}

/-- A step of a submission does to the ledger what submissions do. -/
theorem submitted (knows : phase.Knows ledger id call.token)
    (moves : Moves call id down ledger phase after next) :
    ledger.Submitted call.token id after := by
  cases moves with
  | failed failure fails => exact .nothing
  | leased holding member same time free => exact .leased holding member same _
  | busy taken => exact .nothing
  | probed => exact .nothing
  | waited => exact .nothing
  | informed => exact .nothing
  | agreed inLine => exact .nothing
  | lagging pending drifted holding member same clock => exact .nothing
  | @restored request history ticketId time up holding member same held =>
      obtain ⟨carries, cites, pending, -⟩ := knows
      have about := same.trans carries.about
      have known := carries.fenced holding member about held
      rw [carries.about, Submission.derived, ← known]
      exact .moved holding member about held (known ▸ pending) history cites time false
  | spread up => exact .told _ _
  | recorded action fine recorded kept => exact .recorded action.kept recorded.requestId
  | looked holding member same clock => exact .nothing
  | @committed request history action ticketId time up holding member same held =>
      obtain ⟨carries, cites, pending, -⟩ := knows
      have known := carries.fenced holding member same held
      rw [Submission.derived, ← known]
      exact .moved holding member same held (known ▸ pending) _ cites time true
  | released up holding member same held => exact .freed holding member same held
  | lost up other => exact .nothing
  | announced changed up => exact .told _ _
  | quiet unchanged => exact .nothing
  | ended => exact .nothing

/-- What a submission knows after a step. -/
theorem knows (sound : ledger.Sound) (known : phase.Knows ledger id call.token)
    (moves : Moves call id down ledger phase after next) : next.Knows after id call.token := by
  have evolves := (moves.submitted known).evolves sound
  -- What was known of the request stays true as the ledger evolves, so a case has to tell only what its own step adds.
  cases moves with
  | failed failure fails => exact known.onFailure failure
  | leased holding member same time free => exact Ledger.carries_onRequest sound member same rfl
  | busy taken => trivial
  | probed => trivial
  | waited => trivial
  | informed => exact ⟨known, .history ledger id⟩
  | agreed inLine => exact known
  | lagging pending drifted holding member same clock =>
      have ticketId := known.1.ticketId_eq sound member (same.trans known.1.about)
      exact ⟨known.1, known.2, pending, drifted, ticketId, Moment.leavesCalendar_ofClock clock⟩
  | @restored request history ticketId time up holding member same held =>
      obtain ⟨carries, cites, -⟩ := known
      obtain rfl := carries.about
      exact ⟨Ledger.carries_onRequest sound member same rfl, cites.evolve evolves⟩
  | spread up => exact ⟨known.1.stable evolves fun _ member _ => member, known.2.evolve evolves⟩
  | recorded action fine recorded kept =>
      refine ⟨known.1.stable evolves fun _ member _ => member, ?_,
        (Submission.of_objection?_none fine).2.1⟩
      intro other within
      rcases List.mem_append.mp within with early | last
      · exact known.2.evolve evolves other early
      · obtain rfl := List.mem_singleton.mp last
        exact ⟨other.kept, List.mem_append_right _ (by simp), recorded.requestId, rfl⟩
  | looked holding member same clock =>
      exact ⟨known.1, known.2.1, known.2.2, known.1.ticketId_eq sound member same,
        Moment.leavesCalendar_ofClock clock⟩
  | @committed request history action ticketId time up holding member same held =>
      intro result told
      cases told
      refine ⟨same, fun changed => ⟨?_, _, Ledger.mem_onRequest_self member same, rfl⟩⟩
      simp only [ActionResult.statusChanged, Request.moved, known.2.2.1] at changed ⊢
      cases decided : Submission.derived request (history ++ [action]) with
      | pending => simp [decided] at changed
      | approved => rfl
      | rejected => rfl
  | @released outcome up holding member same held =>
      have reports := Ledger.Reports.evolve known evolves
      cases outcome with
      | ok result => exact reports
      | error failure => exact reports
  | @lost outcome up other =>
      cases outcome with
      | ok result => exact known
      | error failure => exact known
  | announced changed up => exact Ledger.Reports.evolve known evolves
  | quiet unchanged => exact known
  | ended => exact known

/-- A step of a submission keeps the links of the ledger. -/
theorem linked {taken more : Nat} (sound : ledger.Sound) (knows : phase.Knows ledger id call.token)
    (moves : Moves call id down ledger phase after next) (counts : Counts ledger after taken more phase next)
    (linked : ledger.Linked taken) : after.Linked more := by
  have submitted := moves.submitted knows
  have few : taken ≤ more := by
    cases counts with
    | still same actions => omega
    | missed one actions other => omega
    | recorded one numbered actions => omega
  have still (actions : after.actions = ledger.actions) : after.Linked more :=
    linked.later few (submitted.evolves sound) submitted.origins submitted.tickets actions
  cases counts with
  | still same actions => exact still actions
  | missed one actions other => exact still actions
  | @recorded request history action one numbered actions =>
      subst one
      obtain ⟨holding, member, same⟩ := knows.1.origin
      cases moves with
      | recorded action fine recorded kept =>
          have about := same.id.trans (knows.1.about.trans recorded.requestId.symm)
          refine linked.append member about numbered ?_
          change action.key = Action.keyOf action.requestId action.role action.decision action.id
          rw [recorded.requestId]
          exact recorded.key

end Phase.Moves

end Countersign
