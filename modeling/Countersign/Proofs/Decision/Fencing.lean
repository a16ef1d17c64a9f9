/-
Module: Countersign.Proofs.Decision.Fencing
Purpose: In nested runs whoever holds the lease on a request has read all actions on it.
Main exports: Ledger.Held, Ledger.Sequenced, Phase.isInside, Phase.Sees, Phase.Moves.sees,
  Phase.Moves.decision, World.Fenced, World.Changes.fenced, World.Changes.decision, World.Runs.sequenced
-/
import Countersign.Proofs.Ledger.Reading
import Countersign.Proofs.World.Invariant

namespace Countersign

open Service

/-!
Of two submissions that are inside one request, the earlier one has lost the lease to the later one, and goes on
only when the later one is over. So while a submission holds the lease, nobody else records an action on its
request, and it gives its own action a place behind all others. When it then writes a status, that is the status
that the whole trail amounts to.
-/

namespace Ledger

/-- Somebody holds the lease on the request of an id. -/
def Held (ledger : Ledger) (id token : String) : Prop :=
  ∃ holding ∈ ledger.requests, holding.request.id = id ∧ holding.holder? = some token

theorem Held.of_spares {ledger after : Ledger} {id token : String} (held : after.Held id token)
    (spares : Spares token ledger after) : ledger.Held id token := by
  obtain ⟨holding, member, about, holds⟩ := held
  exact ⟨holding, spares holding member holds, about, holds⟩

/-- No action has a place behind the number of actions on its request. -/
def Sequenced (ledger : Ledger) : Prop :=
  ∀ action ∈ ledger.actions, action.sequence ≤ (ledger.history action.requestId).length

/-- An action in a place that there is after it was recorded keeps the trail in sequence. -/
theorem Sequenced.append {ledger : Ledger} {action : Action} (sequenced : ledger.Sequenced)
    (placed : action.sequence ≤ (ledger.history action.requestId).length + 1) :
    (ledger.append action).Sequenced := by
  have grows (id : String) : (ledger.history id).length ≤ ((ledger.append action).history id).length :=
    (history_sublist (List.prefix_append _ _) id).length_le
  intro other member
  rcases List.mem_append.mp member with old | new
  · have before := sequenced other old
    have after := grows other.requestId
    omega
  · obtain rfl := List.mem_singleton.mp new
    have longer : ((ledger.append other).history other.requestId).length =
        (ledger.history other.requestId).length + 1 := by
      rw [length_history, length_history, trailOf_append rfl, List.length_append, List.length_singleton]
    rw [longer]
    exact placed

/-- The trail of a request goes on with an action in a place behind all others. -/
theorem Sequenced.history_append {ledger : Ledger} {action : Action} {id : String}
    (sequenced : ledger.Sequenced) (about : action.requestId = id)
    (placed : action.sequence = (ledger.history id).length + 1) :
    (ledger.append action).history id = ledger.history id ++ [action] := by
  apply history_append_last about
  intro other within
  obtain ⟨member, same⟩ := mem_trailOf.1 within
  have before := sequenced other member
  rw [same] at before
  omega

end Ledger

namespace Phase

/-- Whether a submission has read its request under the lease and has not reported yet. -/
def isInside : Phase → Bool
  | leased _ => true
  | informed _ _ => true
  | restoring _ _ _ _ => true
  | spreading _ _ => true
  | judging _ _ => true
  | recorded _ _ _ => true
  | committing _ _ _ _ _ => true
  | _ => false

/-- The actions on its request that a submission knows, with its own at the end. -/
def known? : Phase → Option (List Action)
  | informed _ history => some history
  | restoring _ history _ _ => some history
  | spreading _ history => some history
  | judging _ history => some history
  | recorded _ history action => some (history ++ [action])
  | committing _ history action _ _ => some (history ++ [action])
  | _ => none

/-- The trail has as many actions as a submission knows. -/
def Finds (ledger : Ledger) (id : String) (phase : Phase) : Prop :=
  ∀ known, phase.known? = some known → known.length ≤ (ledger.history id).length

/-- The trail has as many actions as a submission knows, and no others while the submission holds the lease. -/
def Sees (ledger : Ledger) (id token : String) (phase : Phase) : Prop :=
  ∀ known, phase.known? = some known →
    known.length ≤ (ledger.history id).length ∧
      (ledger.Held id token → known.map Action.step = (ledger.history id).map Action.step)

variable {call : Submission} {id token : String} {down : Bool} {ledger after : Ledger}
  {phase next : Phase}

theorem known?_of_outside (outside : phase.isInside = false) : phase.known? = none := by
  cases phase <;> first | rfl | cases outside

@[simp] theorem isInside_onFailure (phase : Phase) (failure : Failure) :
    (phase.onFailure failure).isInside = false := by
  cases phase <;> rfl

@[simp] theorem isInside_cutOff (phase : Phase) : phase.cutOff.isInside = false := by
  cases phase <;> rfl

@[simp] theorem isInside_afterRelease (outcome : Except Failure ActionResult) :
    (afterRelease outcome).isInside = false := by
  cases outcome <;> rfl

theorem sees_of_unread (unread : phase.known? = none) : phase.Sees ledger id token := by
  intro known same
  rw [unread] at same
  cases same

theorem finds_of_unread (unread : phase.known? = none) : phase.Finds ledger id := by
  intro known same
  rw [unread] at same
  cases same

theorem Sees.finds (sees : phase.Sees ledger id token) : phase.Finds ledger id :=
  fun known same => (sees known same).1

/-- What is found is found where the trail grows. -/
theorem Finds.mono (finds : phase.Finds ledger id) (knows : next.known? = phase.known?)
    (longer : (ledger.history id).length ≤ (after.history id).length) : next.Finds after id :=
  fun known there => Nat.le_trans (finds known (knows.symm.trans there)) longer

/-- What is seen stays seen where the trail grows only for those who do not hold the lease. -/
theorem Sees.mono (sees : phase.Sees ledger id token) (knows : next.known? = phase.known?)
    (longer : (ledger.history id).length ≤ (after.history id).length)
    (same : after.Held id token → ledger.Held id token ∧ after.history id = ledger.history id) :
    next.Sees after id token := by
  intro known there
  obtain ⟨few, all⟩ := sees known (knows.symm.trans there)
  refine ⟨Nat.le_trans few longer, fun held => ?_⟩
  obtain ⟨before, unchanged⟩ := same held
  rw [unchanged]
  exact all before

/-! ### Steps of a submission -/

/-- A submission that goes on finds what it then knows. -/
theorem Moves.finds (moves : Moves call id down ledger phase after next) (finds : phase.Finds ledger id) :
    next.Finds after id := by
  cases moves with
  | failed failure fails => exact finds_of_unread (known?_of_outside (isInside_onFailure _ _))
  | informed =>
      intro known same
      obtain rfl := Option.some.inj same
      exact Nat.le_refl _
  | agreed inLine => exact finds.mono rfl (Nat.le_refl _)
  | lagging pending drifted holding member same clock => exact finds.mono rfl (Nat.le_refl _)
  | restored up holding member same held => exact finds.mono rfl (Nat.le_refl _)
  | spread up => exact finds.mono rfl (Nat.le_refl _)
  | @recorded request history action fine recorded =>
      have few := finds history rfl
      intro known same
      obtain rfl := Option.some.inj same
      rw [Ledger.length_history] at few ⊢
      rw [Ledger.trailOf_append (show action.kept.requestId = id from recorded.requestId), List.length_append,
        List.length_append]
      exact Nat.add_le_add_right few 1
  | looked holding member same clock => exact finds.mono rfl (Nat.le_refl _)
  | released up holding member same held => exact finds_of_unread (known?_of_outside (isInside_afterRelease _))
  | lost up other => exact finds_of_unread (known?_of_outside (isInside_afterRelease _))
  | _ => exact finds_of_unread rfl

/-- A submission that goes on sees the trail as it then is. -/
theorem Moves.sees (knows : phase.Knows ledger id call.token)
    (moves : Moves call id down ledger phase after next) (sequenced : ledger.Sequenced)
    (sees : phase.Sees ledger id call.token) : next.Sees after id call.token := by
  have finds := moves.finds sees.finds
  cases moves with
  | failed failure fails => exact sees_of_unread (known?_of_outside (isInside_onFailure _ _))
  | informed =>
      intro known same
      obtain rfl := Option.some.inj same
      exact ⟨Nat.le_refl _, fun _ => rfl⟩
  | agreed inLine => exact sees.mono rfl (Nat.le_refl _) fun held => ⟨held, rfl⟩
  | lagging pending drifted holding member same clock =>
      exact sees.mono rfl (Nat.le_refl _) fun held => ⟨held, rfl⟩
  | restored up holding member same held =>
      exact sees.mono rfl (Nat.le_refl _) fun _ =>
        ⟨⟨holding, member, same.trans knows.1.about, held⟩, rfl⟩
  | spread up => exact sees.mono rfl (Nat.le_refl _) fun held => ⟨held, rfl⟩
  | @recorded request history action fine recorded =>
      have about : action.kept.requestId = id := recorded.requestId
      intro known same
      refine ⟨finds known same, fun held => ?_⟩
      obtain rfl := Option.some.inj same
      -- While the lease is held the history that was read is the whole trail, so the action stands right behind it.
      have whole := (sees history rfl).2 held
      have count := congrArg List.length whole
      rw [List.length_map, List.length_map] at count
      have placed : action.kept.sequence = (ledger.history id).length + 1 := by
        rw [← count]
        exact recorded.sequence
      rw [sequenced.history_append about placed, List.map_append, List.map_append, whole]
      rfl
  | looked holding member same clock => exact sees.mono rfl (Nat.le_refl _) fun held => ⟨held, rfl⟩
  | released up holding member same held => exact sees_of_unread (known?_of_outside (isInside_afterRelease _))
  | lost up other => exact sees_of_unread (known?_of_outside (isInside_afterRelease _))
  | _ => exact sees_of_unread rfl

/-- A submission records actions on its own request only, and only from inside. -/
theorem Moves.history_eq {other : String} (moves : Moves call id down ledger phase after next)
    (apart : phase.isInside = true → other ≠ id) : after.history other = ledger.history other := by
  cases moves with
  | recorded action fine recorded =>
      have different : action.kept.requestId ≠ other := by
        change action.requestId ≠ other
        rw [recorded.requestId]
        exact (apart rfl).symm
      rw [Ledger.history, Ledger.trailOf_append_of_ne different, Ledger.history]
  | _ => rfl

/-- A submission keeps the trail in sequence. -/
theorem Moves.sequenced (moves : Moves call id down ledger phase after next)
    (sequenced : ledger.Sequenced) (finds : phase.Finds ledger id) : after.Sequenced := by
  cases moves with
  | @recorded request history action fine recorded =>
      have few := finds history rfl
      apply Ledger.Sequenced.append sequenced
      change action.sequence ≤ (ledger.history action.requestId).length + 1
      rw [recorded.requestId, recorded.sequence]
      omega
  | _ => exact sequenced

/-- A submission comes inside when it takes the lease, and then nobody else holds it. -/
theorem Moves.inside (moves : Moves call id down ledger phase after next) (inside : next.isInside = true)
    (sound : ledger.Sound) :
    phase.isInside = true ∨ ∀ other, after.Held id other → other = call.token := by
  cases moves with
  | leased holding member same time free =>
      apply Or.inr
      intro other held
      obtain ⟨later, found, about, holds⟩ := held
      rw [Ledger.eq_of_mem_onRequest sound member same rfl found about] at holds
      exact (Option.some.inj holds).symm
  | failed failure fails => rw [isInside_onFailure] at inside; cases inside
  | released up holding member same held => rw [isInside_afterRelease] at inside; cases inside
  | lost up other => rw [isInside_afterRelease] at inside; cases inside
  | informed => exact Or.inl rfl
  | agreed inLine => exact Or.inl rfl
  | lagging pending drifted holding member same clock => exact Or.inl rfl
  | restored up holding member same held => exact Or.inl rfl
  | spread up => exact Or.inl rfl
  | recorded action fine recorded => exact Or.inl rfl
  | looked holding member same clock => exact Or.inl rfl
  | _ => cases inside

/-- Where the holder of the lease writes what the whole trail of a pending request amounts to, only that request stands
otherwise than before, and it stands as its trail says. -/
theorem decided_of_move (sound : ledger.Sound) {request : Request} (carries : ledger.Carries id call.token request)
    (pending : request.status = .pending) {holding : Holding} (there : holding ∈ ledger.requests)
    (about : holding.request.id = id) (held : holding.holder? = some call.token) {known : List Action}
    (all : known.map Action.step = (ledger.history id).map Action.step) {time : Moment} {releasing : Bool}
    {later : Holding}
    (found : later ∈ (ledger.move id (Submission.derived request known) time releasing).requests) :
    (∃ holding ∈ ledger.requests, holding.request = later.request) ∨
      (∃ holding ∈ ledger.requests, holding.request.id = later.request.id ∧
        holding.request.status = .pending) ∧
      ApprovalStatus.ofActions later.request.approvers (ledger.history later.request.id) =
        later.request.status := by
  have same := carries.fenced holding there about held
  obtain ⟨before, member, rfl⟩ := Ledger.mem_onRequest.1 found
  by_cases here : before.request.id = id
  · obtain rfl := sound.eq_of_id member there (here.trans about.symm)
    rw [if_pos here]
    refine Or.inr ⟨⟨before, member, rfl, same ▸ pending⟩, ?_⟩
    change ApprovalStatus.ofHistory before.request.approvers
      ((ledger.history before.request.id).map Action.step) = _
    rw [here, ← all, same]
    rfl
  · rw [if_neg here]
    exact Or.inl ⟨before, member, rfl⟩

/-- A request that a submission decides was pending before, and stands as the trail then says. -/
theorem Moves.decision (sound : ledger.Sound) (knows : phase.Knows ledger id call.token)
    (sees : phase.Sees ledger id call.token) (moves : Moves call id down ledger phase after next)
    {later : Holding} (member : later ∈ after.requests) :
    (∃ holding ∈ ledger.requests, holding.request = later.request) ∨
      (∃ holding ∈ ledger.requests, holding.request.id = later.request.id ∧
        holding.request.status = .pending) ∧
      ApprovalStatus.ofActions later.request.approvers (after.history later.request.id) =
        later.request.status := by
  have kept {f : Holding → Holding} {about : String}
      (found : later ∈ (ledger.onRequest about f).requests)
      (same : ∀ holding : Holding, holding.request = (f holding).request) :
      ∃ holding ∈ ledger.requests, holding.request = later.request :=
    Ledger.exists_of_mem_onRequest (R := fun one other => one.request = other.request) same (fun _ => rfl) found
  -- Only two steps write a status. Whoever takes them holds the lease, and so has seen the whole trail.
  cases moves with
  | leased holding there same time free => exact Or.inl (kept member fun _ => rfl)
  | @restored request history ticketId time up holding there same held =>
      obtain ⟨carries, -, pending, -⟩ := knows
      have about := same.trans carries.about
      have all := (sees history rfl).2 ⟨holding, there, about, held⟩
      rw [carries.about] at member
      exact decided_of_move sound carries pending there about held all member
  | @committed request history action ticketId time up holding there same held =>
      obtain ⟨carries, -, pending, -⟩ := knows
      have all := (sees (history ++ [action]) rfl).2 ⟨holding, there, same, held⟩
      exact decided_of_move sound carries pending there same held all member
  | released up holding there same held => exact Or.inl (kept member fun _ => rfl)
  | _ => exact Or.inl ⟨later, member, rfl⟩

end Phase

theorem Call.isInside_of_isDone {call : Call} (ended : call.isDone = true) : call.phase.isInside = false := by
  obtain ⟨submission, phase⟩ := call
  cases phase <;> first | rfl | cases ended

namespace World

variable {w w' : World} {ledger after : Ledger} {event : Event}

/-- A world in which whoever holds the lease on a request sees the whole trail of it. -/
structure Fenced (w : World) (ledger : Ledger) : Prop where
  overtaken : ∀ {first second : Nat} {one two : Call} {id : String}, w.calls[first]? = some one →
    w.calls[second]? = some two → first < second → one.submission.On id → two.submission.On id →
    one.phase.isInside = true → two.phase.isInside = true → ¬ ledger.Held id one.submission.token
  sees : ∀ {index : Nat} {call : Call} {id : String}, w.calls[index]? = some call →
    call.submission.On id → call.phase.Sees ledger id call.submission.token
  sequenced : ledger.Sequenced

namespace Fenced

theorem start : World.start.Fenced {} where
  overtaken here := by cases here
  sees here := by cases here
  sequenced action member := by cases member

/-- Where no submission goes on, the trail stays as it is and nobody takes a lease. -/
theorem around {s : ServiceState} (fenced : w.Fenced ledger) (actions : after.actions = ledger.actions)
    (spares : ∀ token, Ledger.Spares token ledger after) : Fenced ⟨s, w.calls⟩ after := by
  have history (id : String) : after.history id = ledger.history id := by
    rw [Ledger.history, Ledger.trailOf, actions, Ledger.history, Ledger.trailOf]
  refine ⟨?_, ?_, ?_⟩
  · intro first second one two id atFirst atSecond early onOne onTwo insideOne insideTwo held
    exact fenced.overtaken atFirst atSecond early onOne onTwo insideOne insideTwo
      (held.of_spares (spares _))
  · intro index call id here on
    exact (fenced.sees here on).mono rfl (Nat.le_of_eq (congrArg List.length (history id).symm))
      fun held => ⟨held.of_spares (spares _), history id⟩
  · intro action member
    rw [history]
    exact fenced.sequenced action (actions ▸ member)

/-- A new submission is not inside yet. -/
theorem submitted {s : ServiceState} {submission : Submission} (fenced : w.Fenced ledger) :
    Fenced ⟨s, w.calls ++ [⟨submission, .claiming 0⟩]⟩ ledger := by
  refine ⟨?_, ?_, fenced.sequenced⟩
  · intro first second one two id atFirst atSecond early onOne onTwo insideOne insideTwo
    rcases getElem?_concat_iff.1 atFirst with oldOne | ⟨-, rfl⟩
    · rcases getElem?_concat_iff.1 atSecond with oldTwo | ⟨-, rfl⟩
      · exact fenced.overtaken oldOne oldTwo early onOne onTwo insideOne insideTwo
      · cases insideTwo
    · cases insideOne
  · intro index call id here on
    rcases getElem?_concat_iff.1 here with old | ⟨-, rfl⟩
    · exact fenced.sees old on
    · exact Phase.sees_of_unread rfl

/-- Where one submission goes on, those that are inside were made before it, and have lost to it. -/
theorem replaced {s : ServiceState} {index : Nat} {call : Call} {next : Phase} {id : String}
    (fenced : w.Fenced ledger) (holds : w.Holds ledger) (here : w.calls[index]? = some call)
    (on : call.submission.On id)
    (others : ∀ {other : Nat} {another : Call}, w.calls[other]? = some another → other ≠ index →
      another.phase.isInside = true → other < index)
    (evolves : ledger.Evolves after)
    (spares : ∀ token, token ≠ call.submission.token → Ledger.Spares token ledger after)
    (comes : next.isInside = true → call.phase.isInside = true ∨
      ∀ other, after.Held id other → other = call.submission.token)
    (sees : next.Sees after id call.submission.token)
    (quiet : ∀ other, (call.phase.isInside = true → other ≠ id) →
      after.history other = ledger.history other)
    (sequenced : after.Sequenced) :
    Fenced ⟨s, w.calls.set index { call with phase := next }⟩ after := by
  -- Whoever holds the lease afterwards and is not the one that goes on held it before: tokens are distinct.
  have before {other : Nat} {another : Call} {about : String}
      (there : w.calls[other]? = some another) (different : other ≠ index)
      (held : after.Held about another.submission.token) : ledger.Held about another.submission.token :=
    held.of_spares (spares _ fun same => different (holds.distinct there here same))
  have sameId {about : String} (alsoOn : call.submission.On about) : about = id :=
    Value.text.inj (alsoOn.requestId.symm.trans on.requestId)
  refine ⟨?_, ?_, sequenced⟩
  · intro first second one two about atFirst atSecond early onOne onTwo insideOne insideTwo held
    rcases (getElem?_set_iff here).1 atFirst with ⟨rfl, rfl⟩ | ⟨notFirst, wasFirst⟩ <;>
      rcases (getElem?_set_iff here).1 atSecond with ⟨rfl, rfl⟩ | ⟨notSecond, wasSecond⟩
    · exact Nat.lt_irrefl _ early
    · exact Nat.lt_asymm early (others wasSecond notSecond insideTwo)
    · rcases comes insideTwo with inside | alone
      · exact fenced.overtaken wasFirst here early onOne onTwo insideOne inside
          (before wasFirst notFirst held)
      · obtain rfl := sameId onTwo
        exact notFirst (holds.distinct wasFirst here (alone _ held))
    · exact fenced.overtaken wasFirst wasSecond early onOne onTwo insideOne insideTwo
        (before wasFirst notFirst held)
  · intro other another about there alsoOn
    rcases (getElem?_set_iff here).1 there with ⟨rfl, rfl⟩ | ⟨different, was⟩
    · obtain rfl := sameId alsoOn
      exact sees
    · by_cases inside : another.phase.isInside = true
      · refine (fenced.sees was alsoOn).mono rfl (Ledger.history_sublist evolves.actions about).length_le
          fun held => ⟨before was different held, quiet about fun goes same => ?_⟩
        subst same
        exact fenced.overtaken was here (others was different inside) alsoOn on inside goes
          (before was different held)
      · exact Phase.sees_of_unread (Phase.known?_of_outside (by simpa using inside))

end Fenced

/-- Every event in turn keeps this. -/
theorem Changes.fenced (changes : w.Changes ledger event w' after) (holds : w.Holds ledger)
    (turn : w.inTurn event = true) (fenced : w.Fenced ledger) : w'.Fenced after := by
  have evolves := changes.evolves holds.sound
  have earlier {index other : Nat} {another : Call} (mover : event.mover? = some index)
      (there : w.calls[other]? = some another) (different : other ≠ index)
      (inside : another.phase.isInside = true) : other < index := by
    by_contra late
    have ended := (others_of_inTurn turn mover there different).2 (by omega)
    rw [Call.isInside_of_isDone ended] at inside
    cases inside
  cases changes with
  | commanded commanded down => exact fenced.around commanded.actions_eq commanded.spares
  | shifted => exact fenced.around rfl fun _ => .refl _ _
  | submitted on => exact fenced.submitted
  | advanced here on knows moves down =>
      have submitted := moves.submitted knows
      exact fenced.replaced holds here on (earlier rfl) evolves
        (fun token different => submitted.spares holds.sound different)
        (fun inside => moves.inside inside holds.sound)
        (moves.sees knows fenced.sequenced (fenced.sees here on))
        (fun other apart => moves.history_eq apart)
        (moves.sequenced fenced.sequenced (fenced.sees here on).finds)
  | @cut index call here point =>
      obtain ⟨id, on, -⟩ := holds.knows here
      refine fenced.replaced holds here on (earlier rfl) evolves (fun _ _ => .refl _ _) ?_
        (Phase.sees_of_unread (Phase.known?_of_outside (Phase.isInside_cutOff _))) (fun _ _ => rfl)
        fenced.sequenced
      intro inside
      rw [Phase.isInside_cutOff] at inside
      cases inside

/-- In a nested run a request that is decided was decided before, or it was pending before, and stands as the
trail then says. -/
theorem Changes.decision (changes : w.Changes ledger event w' after) (sound : ledger.Sound)
    (fenced : w.Fenced ledger) {later : Holding} (member : later ∈ after.requests)
    (terminal : later.request.status.isTerminal = true) :
    (∃ holding ∈ ledger.requests, holding.request = later.request) ∨
      (∃ holding ∈ ledger.requests, holding.request.id = later.request.id ∧
        holding.request.status = .pending) ∧
      ApprovalStatus.ofActions later.request.approvers (after.history later.request.id) =
        later.request.status := by
  cases changes with
  | commanded commanded down =>
      cases commanded with
      | opened request admits =>
          rcases List.mem_append.mp member with old | new
          · exact Or.inl ⟨later, old, rfl⟩
          · obtain rfl := List.mem_singleton.mp new
            rw [admits.pending] at terminal
            cases terminal
      | _ => exact Or.inl ⟨later, member, rfl⟩
  | shifted => exact Or.inl ⟨later, member, rfl⟩
  | submitted on => exact Or.inl ⟨later, member, rfl⟩
  | advanced here on knows moves down =>
      exact moves.decision sound knows (fenced.sees here on) member
  | cut here point => exact Or.inl ⟨later, member, rfl⟩

/-! ### Places in the trail -/

/-- In a run in any order, too, no action has a place behind the number of actions on its request. -/
theorem Changes.sequenced (changes : w.Changes ledger event w' after) (holds : w.Holds ledger)
    (sequenced : ledger.Sequenced)
    (finds : ∀ {index : Nat} {call : Call} {id : String}, w.calls[index]? = some call → call.submission.On id →
      call.phase.Finds ledger id) :
    after.Sequenced ∧ ∀ {index : Nat} {call : Call} {id : String}, w'.calls[index]? = some call →
      call.submission.On id → call.phase.Finds after id := by
  have longer (id : String) : (ledger.history id).length ≤ (after.history id).length :=
    (Ledger.history_sublist (changes.evolves holds.sound).actions id).length_le
  have still (same : after.actions = ledger.actions) : after.Sequenced := by
    intro action member
    exact (sequenced action (same ▸ member)).trans (Int.ofNat_le.2 (longer action.requestId))
  -- All submissions but the one that goes on find what they found, since the trail only grows.
  have replaced {index : Nat} {call : Call} {id : String} {next : Phase} (here : w.calls[index]? = some call)
      (on : call.submission.On id) (later : next.Finds after id) {other : Nat} {another : Call} {about : String}
      (there : (w.calls.set index { call with phase := next })[other]? = some another)
      (alsoOn : another.submission.On about) : another.phase.Finds after about := by
    rcases (getElem?_set_iff here).1 there with ⟨rfl, rfl⟩ | ⟨-, was⟩
    · obtain rfl := Value.text.inj (alsoOn.requestId.symm.trans on.requestId)
      exact later
    · exact (finds was alsoOn).mono rfl (longer _)
  cases changes with
  | commanded commanded down few =>
      exact ⟨still commanded.actions_eq, fun here on => (finds here on).mono rfl (longer _)⟩
  | shifted down same => exact ⟨sequenced, finds⟩
  | submitted on made down same =>
      refine ⟨sequenced, fun there alsoOn => ?_⟩
      rcases getElem?_concat_iff.1 there with old | ⟨-, rfl⟩
      · exact finds old alsoOn
      · exact Phase.finds_of_unread rfl
  | advanced here on knows moves down counts =>
      exact ⟨moves.sequenced sequenced (finds here on), replaced here on (moves.finds (finds here on))⟩
  | cut here point =>
      obtain ⟨id, on, -⟩ := holds.knows here
      exact ⟨sequenced, replaced here on
        (Phase.finds_of_unread (Phase.known?_of_outside (Phase.isInside_cutOff _)))⟩

/-- So none has in a world that is reached. -/
theorem Runs.sequenced {environment : Session.Environment} {order : Order} (reached : Runs environment order start w) :
    ∃ ledger, w.Holds ledger ∧ ledger.Sequenced := by
  obtain ⟨ledger, holds, -, sequenced, -⟩ := reached.preserves
    (P := fun w ledger => ledger.Sequenced ∧ ∀ {index : Nat} {call : Call} {id : String},
      w.calls[index]? = some call → call.submission.On id → call.phase.Finds ledger id)
    (fun holds known _ _ changes _ => changes.sequenced holds known.1 known.2) holds_start
    ⟨fun _ member => (by cases member), fun here => (by cases here)⟩
  exact ⟨ledger, holds, sequenced⟩

end World

end Countersign
