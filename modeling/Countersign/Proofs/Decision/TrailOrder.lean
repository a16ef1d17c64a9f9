/-
Module: Countersign.Proofs.Decision.TrailOrder
Purpose: When the trail that is read of a request goes on where it ended before.
Main exports: Phase.Moves.recorded_cases, World.leasedTo, World.Records, World.Changes.records, World.history_isPrefix
-/
import Countersign.Proofs.Decision.Fencing

namespace Countersign

open Service

/-!
A submission gives its action the place behind the actions that it has read. While it holds the lease these are all
actions on its request, and so the action is read last. But a submission that lost the lease is not stopped before it
records its action: it knows fewer actions than there are by then, and its action may be read in front of some of them.
-/

namespace Phase

/-- A step of a submission leaves the actions alone, or records one on its request in the place behind those that the
submission knows. -/
theorem Moves.recorded_cases {call : Submission} {id : String} {down : Bool} {ledger after : Ledger}
    {phase next : Phase} (moves : Moves call id down ledger phase after next) {action : Action}
    (member : action ∈ after.actions) :
    action ∈ ledger.actions ∨ ∃ known, phase.known? = some known ∧ action.sequence = (known.length + 1 : Nat) ∧
      action.requestId = id ∧ after = ledger.append action := by
  cases moves with
  | @recorded request history made fine recorded =>
      rcases List.mem_append.1 member with old | new
      · exact Or.inl old
      · obtain rfl := List.mem_singleton.1 new
        exact Or.inr ⟨history, rfl, recorded.sequence, recorded.requestId, rfl⟩
  | _ => exact Or.inl member

end Phase

namespace World

variable {environment : Session.Environment} {w w' : World} {ledger after : Ledger} {event : Event} {id : String}

/-- Whether the lease on the request of an id is held under a token. -/
def leasedTo (w : World) (id token : String) : Bool :=
  w.state.store.requests.any fun document =>
    document.meets "approval_request_id" (.text id) && document.meets "locked_by" (.text token)

theorem Holds.leasedTo_iff (holds : w.Holds ledger) {token : String} :
    w.leasedTo id token = true ↔ ledger.Held id token := by
  rw [leasedTo, List.any_eq_true]
  constructor
  · rintro ⟨document, member, meets⟩
    obtain ⟨holding, within, here⟩ := exists_of_mem_documents holds.shown.requests member
    rw [RequestStore.withId_shown here, RequestStore.holder_shown here, Bool.and_eq_true, beq_iff_eq,
      beq_iff_eq] at meets
    exact ⟨holding, within, meets⟩
  · rintro ⟨holding, within, about, held⟩
    obtain ⟨located⟩ := holds.shown.located within
    refine ⟨located.document, by rw [located.documents]; simp, ?_⟩
    rw [RequestStore.withId_shown located.shown, RequestStore.holder_shown located.shown, about, held]
    simp

/-- An event of a nested run in which a submission recorded an action, behind the actions that it knew. -/
structure Records (environment : Session.Environment) (w w' : World) (call : Call) (known : List Action)
    (action : Action) : Prop where
  event : ∃ index, w.inTurn (.advance index) = true ∧ w.take environment (.advance index) = some w' ∧
    w.calls[index]? = some call
  requestId : call.submission.requestId = .text action.requestId
  knew : call.phase.known? = some known
  sequence : action.sequence = (known.length + 1 : Nat)
  trail : w'.trail action.requestId = w.trail action.requestId ++ [action]

/-- An event of a nested run leaves the actions alone, or an action is recorded. Where the action is then read in front
of another one, the submission did not hold the lease any more and did not know all actions. -/
theorem Changes.records (changes : w.Changes ledger event w' after) (holds : w.Holds ledger) (later : w'.Holds after)
    (fenced : w.Fenced ledger) (turn : w.inTurn event = true) (taken : w.take environment event = some w')
    {action : Action} (member : action ∈ after.actions) :
    action ∈ ledger.actions ∨ ∃ call known, w.Records environment w' call known action ∧
      ∀ other ∈ w.history action.requestId, other.noLaterThan action = false →
        w.leasedTo action.requestId call.submission.token = false ∧
          known.length < (w.history action.requestId).length := by
  cases changes with
  | commanded commanded down few => exact Or.inl (commanded.actions_eq ▸ member)
  | shifted down same => exact Or.inl member
  | submitted on made down same => exact Or.inl member
  | cut here point => exact Or.inl member
  | @advanced s index call id next after here on knows moves down counts =>
      rcases moves.recorded_cases member with old | ⟨known, knew, sequence, rfl, rfl⟩
      · exact Or.inl old
      refine Or.inr ⟨call, known, ⟨⟨index, turn, taken, here⟩, on.requestId, knew, sequence, ?_⟩, ?_⟩
      · rw [later.trail_eq, holds.trail_eq, Ledger.trailOf_append rfl]
      · intro other read front
        rw [holds.history_eq] at read ⊢
        -- The place of the other action is not in front of the one that was given out again.
        have placed := fenced.sequenced other (Ledger.mem_history.1 read).1
        rw [(Ledger.mem_history.1 read).2] at placed
        have few : known.length < (ledger.history action.requestId).length := by
          simp only [Action.noLaterThan, Bool.or_eq_false_iff, decide_eq_false_iff_not] at front
          omega
        refine ⟨Bool.eq_false_iff.2 fun leased => ?_, few⟩
        have whole := congrArg List.length ((fenced.sees here on known knew).2 (holds.leasedTo_iff.1 leased))
        rw [List.length_map, List.length_map] at whole
        omega

/-- In a nested run the trail of a request can be read at any time. What is read at one moment is read later on, too,
and in the same order. It is read first exactly if all that was recorded since then may stand behind it, and an action
that may not was recorded since then by a submission that did not hold the lease any more and that knew fewer actions
than there were. -/
theorem history_isPrefix (reached : Runs environment inTurn start w) (since : Runs environment inTurn w w')
    (id : String) :
    exec (Trail.listFor (.text id)) w.reachable = (.ok (w.history id), w.reachable) ∧
    exec (Trail.listFor (.text id)) w'.reachable = (.ok (w'.history id), w'.reachable) ∧
    (w.history id).Sublist (w'.history id) ∧
    (w.history id <+: w'.history id ↔
      ∀ action ∈ w'.history id, action ∉ w.history id → ∀ other ∈ w.history id, other.noLaterThan action = true) ∧
    ∀ action ∈ w'.history id, action ∉ w.history id → ∀ other ∈ w.history id, other.noLaterThan action = false →
      ∃ w₀ w₁ call known, Runs environment inTurn w w₀ ∧ w₀.Records environment w₁ call known action ∧
        Runs environment inTurn w₁ w' ∧ w₀.leasedTo id call.submission.token = false ∧
        known.length < (w₀.history id).length := by
  obtain ⟨ledger, holds, -, fenced⟩ := reached.preserves (P := Fenced)
    (fun holds fenced turn _ changes _ => changes.fenced holds turn fenced) holds_start .start
  obtain ⟨after, later, evolves, -, -, -, told⟩ := since.preserves
    (P := fun v now => v.Fenced now ∧ Runs environment inTurn w v ∧ ledger.actions <+: now.actions ∧
      ∀ action ∈ now.actions, action ∈ ledger.actions ∨ ∃ w₀ w₁ call known, Runs environment inTurn w w₀ ∧
        w₀.Records environment w₁ call known action ∧ Runs environment inTurn w₁ v ∧
        ∀ other ∈ ledger.history action.requestId, other.noLaterThan action = false →
          w₀.leasedTo action.requestId call.submission.token = false ∧
            known.length < (w₀.history action.requestId).length)
    (fun {v now event v' next} there before turn taken changes further => by
      obtain ⟨fenced, ran, longer, told⟩ := before
      refine ⟨changes.fenced there turn fenced, .next ran event turn taken,
        longer.trans (changes.evolves there.sound).actions, fun action member => ?_⟩
      rcases changes.records there further fenced turn taken member with old | ⟨call, known, records, lost⟩
      · refine (told action old).imp_right ?_
        rintro ⟨w₀, w₁, call, known, first, records, last, lost⟩
        exact ⟨w₀, w₁, call, known, first, records, .next last event turn taken, lost⟩
      · refine Or.inr ⟨v, v', call, known, ran, records, .stay, fun other read => lost other ?_⟩
        rw [there.history_eq]
        exact (Ledger.history_sublist longer _).subset read)
    holds ⟨fenced, .stay, List.prefix_refl _, fun _ member => Or.inl member⟩
  refine ⟨?_, ?_, ?_⟩
  · rw [holds.history_eq]
    exact holds.exec_listFor id
  · rw [later.history_eq]
    exact later.exec_listFor id
  · rw [holds.history_eq, later.history_eq]
    refine ⟨Ledger.history_sublist evolves.actions id,
      Ledger.history_isPrefix_iff later.sound evolves.actions id, fun action within new other old front => ?_⟩
    obtain ⟨member, about⟩ := Ledger.mem_history.1 within
    subst about
    rcases told action member with known | ⟨w₀, w₁, call, known, first, records, last, lost⟩
    · exact absurd (Ledger.mem_history.2 ⟨known, rfl⟩) new
    · exact ⟨w₀, w₁, call, known, first, records, last, lost other old front⟩

/-- A request that was approved, before and after a submission that had lost the lease records its rejection: the
rejection is read in front of the approval. -/
theorem history_isPrefix_of_overtaken :
    ∃ w w', Runs Trial.environment inTurn start w ∧ Runs Trial.environment inTurn w w' ∧
      (w.history Trial.requestId).map (fun action => (action.decision, action.sequence)) =
        [(.requestChanges, 1), (.approve, 2)] ∧
      (w'.history Trial.requestId).map (fun action => (action.decision, action.sequence)) =
        [(.requestChanges, 1), (.reject, 1), (.approve, 2)] ∧
      exec (Trail.listFor (.text Trial.requestId)) w.reachable = (.ok (w.history Trial.requestId), w.reachable) ∧
      exec (Trail.listFor (.text Trial.requestId)) w'.reachable = (.ok (w'.history Trial.requestId), w'.reachable) ∧
      ¬ w.history Trial.requestId <+: w'.history Trial.requestId ∧
      ∃ action ∈ w'.history Trial.requestId, action.decision = .reject ∧
        ∃ w₀ w₁ call known, Runs Trial.environment inTurn w w₀ ∧ w₀.Records Trial.environment w₁ call known action ∧
          Runs Trial.environment inTurn w₁ w' ∧ w₀.leasedTo Trial.requestId call.submission.token = false ∧
          known.length < (w₀.history Trial.requestId).length := by
  let read (w : World) : List (Decision × Int) :=
    ((w.trail Trial.requestId).insertionSort fun first second => first.noLaterThan second = true).map
      fun action => (action.decision, action.sequence)
  -- The overtaken submission goes on for its last five steps when the request is approved.
  obtain ⟨w, reached, found⟩ := Runs.exists_of_play
    (p := fun w => read w == [(.requestChanges, 1), (.approve, 2)] &&
      (w.play Trial.environment inTurn (Trial.goesOn 0 5)).any fun w' =>
        read w' == [(.requestChanges, 1), (.reject, 1), (.approve, 2)])
    (show (start.play Trial.environment inTurn (Trial.overtaken.take 24)).any _ = true by decide +kernel)
  obtain ⟨before, goes⟩ := Bool.and_eq_true_iff.1 found
  obtain ⟨w', since, behind⟩ := Runs.exists_of_play goes
  obtain ⟨ledger, holds, -⟩ := reached.holds holds_start
  obtain ⟨after, later, -⟩ := since.holds holds
  have first : (w.history Trial.requestId).map (fun action => (action.decision, action.sequence)) =
      [(.requestChanges, 1), (.approve, 2)] := by
    rw [holds.history_eq_insertionSort]
    exact beq_iff_eq.1 before
  have last : (w'.history Trial.requestId).map (fun action => (action.decision, action.sequence)) =
      [(.requestChanges, 1), (.reject, 1), (.approve, 2)] := by
    rw [later.history_eq_insertionSort]
    exact beq_iff_eq.1 behind
  obtain ⟨reads, readsLater, -, isPrefix, lost⟩ := history_isPrefix reached since Trial.requestId
  obtain ⟨approval, old, approved⟩ : ∃ other ∈ w.history Trial.requestId,
      (other.decision, other.sequence) = (Decision.approve, (2 : Int)) := List.mem_map.1 (by rw [first]; simp)
  obtain ⟨rejection, within, rejected⟩ : ∃ action ∈ w'.history Trial.requestId,
      (action.decision, action.sequence) = (Decision.reject, (1 : Int)) := List.mem_map.1 (by rw [last]; simp)
  obtain ⟨-, second⟩ := Prod.mk.inj approved
  obtain ⟨rejects, place⟩ := Prod.mk.inj rejected
  have new : rejection ∉ w.history Trial.requestId := by
    intro known
    have within := List.mem_map_of_mem (f := fun action : Action => (action.decision, action.sequence)) known
    rw [first, rejects, place] at within
    revert within
    decide
  have front : approval.noLaterThan rejection = false := by
    rw [Action.noLaterThan, second, place]
    rfl
  refine ⟨w, w', reached, since, first, last, reads, readsLater, fun whole => ?_, rejection, within, rejects,
    lost rejection within new approval old front⟩
  rw [isPrefix.1 whole rejection within new approval old] at front
  cases front

end World

end Countersign
