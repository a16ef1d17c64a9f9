/-
Module: Countersign.Proofs.Decision.Signatures
Purpose: Whose actions a trail has: those of required roles, and at most one approval of each.
Main exports: Ledger.Signed, Ledger.count_approvals_le_one, Phase.Moves.signed, World.Changes.signed,
  World.trail_signed
-/
import Countersign.Proofs.Decision.Refusals

namespace Countersign

/-!
A submission checks its role against the request that it read when it took the lease, and opening a request fixes
its roles for ever, so the role is still required when the action is recorded. That the role has not approved
before is checked against a history that may be old by then. What keeps a second approval out of the trail is its
key, which is that of the first.
-/

namespace Ledger

variable {ledger after : Ledger}

/-- A ledger in which every action is on a request that is there, and of a role that the request asks for. -/
def Signed (ledger : Ledger) : Prop :=
  ∀ action ∈ ledger.actions, ∃ holding ∈ ledger.requests,
    holding.request.id = action.requestId ∧ action.role ∈ holding.request.approvers

namespace Signed

/-- No request loses a role, so an action stays one of a required role. -/
theorem evolve (signed : ledger.Signed) (evolves : ledger.Evolves after) {action : Action}
    (member : action ∈ ledger.actions) :
    ∃ holding ∈ after.requests, holding.request.id = action.requestId ∧ action.role ∈ holding.request.approvers := by
  obtain ⟨holding, known, about, required⟩ := signed action member
  obtain ⟨later, found, same⟩ := evolves.origins holding known
  exact ⟨later, found, same.id.trans about, same.approvers ▸ required⟩

/-- Where nothing is recorded, the actions stay those of required roles. -/
theorem later (signed : ledger.Signed) (evolves : ledger.Evolves after) (actions : after.actions = ledger.actions) :
    after.Signed :=
  fun _ member => signed.evolve evolves (actions ▸ member)

/-- An action of a role that its request asks for may be recorded. -/
theorem append (signed : ledger.Signed) {action : Action} {holding : Holding} (member : holding ∈ ledger.requests)
    (about : holding.request.id = action.requestId) (required : action.role ∈ holding.request.approvers) :
    (ledger.append action).Signed := by
  intro other within
  rcases List.mem_append.1 within with old | new
  · exact signed other old
  · obtain rfl := List.mem_singleton.1 new
    exact ⟨holding, member, about, required⟩

end Signed

/-- Two approvals of one role on one request would have the same key. -/
theorem count_approvals_le_one {taken : Nat} (sound : ledger.Sound) (linked : ledger.Linked taken)
    (id role : String) : ((ledger.trailOf id).map Action.step).count (role, .approve) ≤ 1 := by
  let approves (action : Action) : Bool := action.step == (role, .approve)
  let approvals : List Action := (ledger.trailOf id).filter approves
  have count : ((ledger.trailOf id).map Action.step).count (role, .approve) = (approvals.map (·.key)).length := by
    rw [List.count_eq_countP, List.countP_map, List.countP_eq_length_filter, List.length_map]
    rfl
  have keyed : ∀ key ∈ approvals.map (·.key), key = Action.keyOf id role .approve "" := by
    intro key within
    obtain ⟨action, inside, rfl⟩ := List.mem_map.1 within
    obtain ⟨known, approved⟩ := List.mem_filter.1 inside
    obtain ⟨member, rfl⟩ := mem_trailOf.1 known
    obtain ⟨rfl, decided⟩ := Prod.mk.inj (beq_iff_eq.1 approved)
    rw [linked.actionKeys action member, decided]
    rfl
  have nodup : (approvals.map (·.key)).Nodup :=
    sound.actionKeys.sublist ((List.filter_sublist.trans List.filter_sublist).map _)
  rw [count]
  rw [List.eq_replicate_of_mem keyed] at nodup
  exact List.nodup_replicate.1 nodup

end Ledger

/-- What is recorded for a submission is an action of a role that its request asks for. -/
theorem Phase.Moves.signed {call : Submission} {id : String} {down : Bool} {ledger after : Ledger}
    {phase next : Phase} (moves : Moves call id down ledger phase after next) (sound : ledger.Sound)
    (knows : phase.Knows ledger id call.token) (signed : ledger.Signed) : after.Signed := by
  have evolves := (moves.submitted knows).evolves sound
  cases moves with
  | @recorded request history action fine recorded kept =>
      obtain ⟨holding, member, same⟩ := knows.1.origin
      have about : holding.request.id = action.requestId :=
        same.id.trans (knows.1.about.trans recorded.requestId.symm)
      have required := (Submission.of_objection?_none fine).1
      rw [Submission.isRequired, recorded.role, ← same.approvers] at required
      have role : action.kept.role ∈ holding.request.approvers := List.contains_iff_mem.1 required
      exact signed.append member about role
  | _ => exact signed.later evolves rfl

/-- Two submissions of one role pass the check of its approvals, since the first of them lost the lease in between,
and both go on to their end. -/
def Trial.approvedTwice : List World.Event := approvedMeanwhile ++ goesOn 0 3

namespace World

variable {environment : Session.Environment} {order : Order} {w w' : World} {ledger after : Ledger} {event : Event}

/-- Every event keeps the actions those of required roles. -/
theorem Changes.signed (changes : w.Changes ledger event w' after) (holds : w.Holds ledger)
    (signed : ledger.Signed) : after.Signed := by
  cases changes with
  | commanded commanded down few => exact signed.later commanded.evolves commanded.actions_eq
  | shifted down same => exact signed
  | submitted on made down same => exact signed
  | advanced here on knows moves down counts => exact moves.signed holds.sound knows signed
  | cut here point => exact signed

/-- In every world that is reached, in whatever order submissions go on, every action in the store is on a request
that the store keeps and of a role that this request asks for, and the trail of a request has at most one approval
of each role. -/
theorem trail_signed (reached : Runs environment order start w) :
    (∀ document ∈ w.state.store.actions, ∃ action, Action.check document = .accepted action ∧
      (∃ request, w.Stores request ∧ request.id = action.requestId) ∧
      ∀ request, w.Stores request → request.id = action.requestId → action.role ∈ request.approvers) ∧
    ∀ id role, ((w.trail id).map Action.step).count (role, .approve) ≤ 1 := by
  obtain ⟨ledger, holds, -, signed⟩ := reached.preserves (P := fun _ ledger => ledger.Signed)
    (fun holds signed _ _ changes _ => changes.signed holds signed) holds_start
    (fun _ member => by cases member)
  constructor
  · intro document member
    obtain ⟨action, within, here⟩ := exists_of_mem_documents holds.shown.actions member
    obtain ⟨holding, known, about, required⟩ := signed action within
    refine ⟨action, here.reads, ⟨holding.request, holds.stores_iff.2 ⟨holding, known, rfl⟩, about⟩, ?_⟩
    intro request stored same
    obtain ⟨other, found, rfl⟩ := holds.stores_iff.1 stored
    obtain rfl := holds.sound.eq_of_id found known (same.trans about.symm)
    exact required
  · intro id role
    rw [holds.trail_eq]
    exact Ledger.count_approvals_le_one holds.sound holds.linked id role

/-- Two submissions of one role that both found no approval of it leave one approval. -/
theorem trail_signed_of_two_submissions :
    ∃ w, Runs Trial.environment inTurn start w ∧ w.calls.length = 2 ∧
      (w.trail Trial.requestId).map Action.step = [("X", .approve)] ∧
      ((w.trail Trial.requestId).map Action.step).count ("X", .approve) ≤ 1 := by
  obtain ⟨w, reached, found⟩ := Runs.exists_of_play
    (p := fun w => w.calls.length == 2 && (w.trail Trial.requestId).map Action.step == [("X", .approve)])
    (show (start.play Trial.environment inTurn Trial.approvedTwice).any _ = true by decide +kernel)
  obtain ⟨two, once⟩ := Bool.and_eq_true_iff.1 found
  exact ⟨w, reached, beq_iff_eq.1 two, beq_iff_eq.1 once, (trail_signed reached).2 Trial.requestId "X"⟩

end World

end Countersign
