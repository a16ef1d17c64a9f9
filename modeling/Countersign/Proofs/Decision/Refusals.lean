/-
Module: Countersign.Proofs.Decision.Refusals
Purpose: Which refused submissions leave an action in the trail.
Main exports: Phase.HasRecorded, Phase.HasMissed, Phase.Moves.hasRecorded, Phase.Moves.hasMissed,
  World.Generated, World.refused_recorded_iff
-/
import Countersign.Proofs.World.Invariant

namespace Countersign

open Service

/-!
An action is recorded before the status is committed, and the commit may find that the lease was lost. So that one
refusal leaves the action in the trail, where the next submission that takes the lease reads it and brings the
request in line. Every other refusal comes before anything is recorded.
-/

namespace Phase

/-- A submission that has recorded its action. If it is refused, then because the lease was lost. -/
def HasRecorded (id : String) : Phase → Prop
  | recorded _ _ _ => True
  | committing _ _ _ _ _ => True
  | announcing _ => True
  | releasing outcome => ∀ refusal, outcome = .error (.refused refusal) → refusal = .leaseLost (.text id)
  | done outcome => ∀ refusal, outcome = .error (.refused refusal) → refusal = .leaseLost (.text id)
  | _ => False

/-- A submission that failed before its action was recorded, and not because a commit found the lease lost. -/
def HasMissed : Phase → Prop
  | releasing (.error failure) => ∀ id, failure ≠ .refused (.leaseLost id)
  | done (.error failure) => ∀ id, failure ≠ .refused (.leaseLost id)
  | _ => False

variable {call : Submission} {id : String} {down : Bool} {ledger after : Ledger} {phase next : Phase}

theorem HasRecorded.afterRelease {outcome : Except Failure ActionResult}
    (recorded : (releasing outcome).HasRecorded id) : (Phase.afterRelease outcome).HasRecorded id := by
  cases outcome with
  | ok result => trivial
  | error failure => exact recorded

theorem HasMissed.afterRelease {outcome : Except Failure ActionResult}
    (missed : (releasing outcome).HasMissed) : (Phase.afterRelease outcome).HasMissed := by
  cases outcome with
  | ok result => exact missed
  | error failure => exact missed

theorem hasRecorded_onFailure {failure : Failure}
    (told : ∀ refusal, failure = .refused refusal → refusal = .leaseLost (.text id)) :
    (phase.onFailure failure).HasRecorded id := by
  cases phase <;> exact fun refusal same => told refusal (Except.error.inj same)

theorem hasMissed_onFailure {failure : Failure} (other : ∀ id, failure ≠ .refused (.leaseLost id)) :
    (phase.onFailure failure).HasMissed := by
  cases phase <;> exact other

theorem hasRecorded_cutOff (phase : Phase) (id : String) : phase.cutOff.HasRecorded id := by
  cases phase <;> exact fun refusal same => by cases same

theorem HasMissed.not_point (missed : phase.HasMissed) : phase.point?.isSome = false := by
  cases phase <;> first | rfl | cases missed

/-- A submission that recorded its action goes on to its end or fails, and then no refusal but that of a lost lease
is told. -/
theorem Moves.hasRecorded (moves : Moves call id down ledger phase after next)
    (recorded : phase.HasRecorded id) : next.HasRecorded id := by
  cases moves with
  | failed failure fails =>
      apply hasRecorded_onFailure
      rintro refusal rfl
      cases fails with
      | lost other => rfl
      | _ => cases recorded
  | looked holding member same clock => trivial
  | committed up holding member same held =>
      intro refusal told
      cases told
  | released up holding member same held => exact recorded.afterRelease
  | lost up other => exact recorded.afterRelease
  | announced changed up =>
      intro refusal told
      cases told
  | quiet unchanged =>
      intro refusal told
      cases told
  | ended => exact recorded
  | _ => cases recorded

/-- A submission that recorded nothing comes to its end. -/
theorem Moves.hasMissed (moves : Moves call id down ledger phase after next) (missed : phase.HasMissed) :
    next.HasMissed := by
  cases moves with
  | failed failure fails =>
      apply hasMissed_onFailure
      rintro id rfl
      cases fails <;> cases missed
  | released up holding member same held => exact missed.afterRelease
  | lost up other => exact missed.afterRelease
  | ended => exact missed
  | _ => cases missed

end Phase

namespace World

variable {environment : Session.Environment} {order : Order} {w w' w₀ w₁ : World} {ledger after : Ledger}
  {event : Event} {index number : Nat} {call : Call}

/-- Whether the store of a world keeps an action of an id. -/
def KeepsAction (w : World) (id : String) : Prop :=
  ∃ document ∈ w.state.store.actions, Fields.get? document "action_id" = some (.text id)

/-- The actions that the store keeps are those of the ledger. -/
theorem Holds.keepsAction_iff (holds : w.Holds ledger) {id : String} :
    w.KeepsAction id ↔ ∃ action ∈ ledger.actions, action.id = id := by
  constructor
  · rintro ⟨document, member, known⟩
    obtain ⟨action, within, here⟩ := exists_of_mem_documents holds.shown.actions member
    rw [here.id] at known
    exact ⟨action, within, Value.text.inj (Option.some.inj known)⟩
  · rintro ⟨action, member, rfl⟩
    obtain ⟨_, _, _, document, _, _, documents, _, here, _⟩ := split_of_mem holds.shown.actions member
    exact ⟨document, by rw [documents]; simp, here.id⟩

/-- One step of a submission took the number of an action. -/
structure Generated (environment : Session.Environment) (w : World) (index number : Nat) (w' : World) : Prop where
  step : w.take environment (.advance index) = some w'
  after : w.state.taken "ACT" < number
  upTo : number ≤ w'.state.taken "ACT"

/-- What became of the number of an action that a submission has taken. -/
def Spent (index number : Nat) (w : World) (ledger : Ledger) : Prop :=
  ∃ call id, w.calls[index]? = some call ∧ call.submission.On id ∧
    (call.phase.HasRecorded id ∧ (∃ action ∈ ledger.actions, action.id = idText "ACT" number) ∨
      call.phase.HasMissed ∧ number ≤ w.state.taken "ACT" ∧
        ∀ action ∈ ledger.actions, action.id ≠ idText "ACT" number)

/-- A submission takes the number of an action only when it comes to record the action, and then it is recorded
with that number or not at all. -/
theorem Holds.spent_of_generated (holds : w.Holds ledger) (generated : w.Generated environment index number w')
    (changes : w.Changes ledger (.advance index) w' after) : Spent index number w' after := by
  obtain ⟨-, new, upTo⟩ := generated
  cases changes with
  | @advanced s _ call id next _ here on knows moves down counts =>
  have there : (w.calls.set index { call with phase := next })[index]? = some { call with phase := next } :=
    (getElem?_set_iff here).2 (Or.inl ⟨rfl, rfl⟩)
  refine ⟨_, id, there, on, ?_⟩
  change number ≤ s.taken "ACT" at upTo
  generalize call.phase = phase at counts
  cases counts with
  | still same actions => omega
  | missed one actions other =>
      refine Or.inr ⟨other, upTo, ?_⟩
      rw [actions]
      exact holds.linked.next_fresh new
  | recorded one numbered actions =>
      obtain rfl : number = w.state.taken "ACT" + 1 := by omega
      subst actions
      exact Or.inl ⟨trivial, _, List.mem_append_right _ (List.mem_singleton_self _), numbered⟩

/-- Whether an action was recorded with a number stays as it is. -/
theorem Changes.spent (changes : w.Changes ledger event w' after) (holds : w.Holds ledger)
    (spent : Spent index number w ledger) : Spent index number w' after := by
  obtain ⟨call, id, here, on, outcome⟩ := spent
  obtain ⟨few, recorded⟩ := changes.numbered
  have kept (known : ∃ action ∈ ledger.actions, action.id = idText "ACT" number) :
      ∃ action ∈ after.actions, action.id = idText "ACT" number := by
    obtain ⟨action, member, numbered⟩ := known
    exact ⟨action, (changes.evolves holds.sound).mem_actions member, numbered⟩
  have fresh (before : number ≤ w.state.taken "ACT")
      (missing : ∀ action ∈ ledger.actions, action.id ≠ idText "ACT" number) :
      number ≤ w'.state.taken "ACT" ∧ ∀ action ∈ after.actions, action.id ≠ idText "ACT" number := by
    refine ⟨Nat.le_trans before few, fun action member same => ?_⟩
    rcases recorded action member with old | new
    · exact missing action old same
    · have := idText_injective "ACT" (new.symm.trans same)
      omega
  rcases changes.call_cases here with
    same | ⟨id', next, on', -, moves, there⟩ | ⟨point, -, there⟩
  · exact ⟨call, id, same, on, outcome.imp (fun known => ⟨known.1, kept known.2⟩)
      fun missed => ⟨missed.1, fresh missed.2.1 missed.2.2⟩⟩
  · obtain rfl : id' = id := Value.text.inj (on'.requestId.symm.trans on.requestId)
    exact ⟨_, id', there, on, outcome.imp (fun known => ⟨moves.hasRecorded known.1, kept known.2⟩)
      fun missed => ⟨moves.hasMissed missed.1, fresh missed.2.1 missed.2.2⟩⟩
  · refine ⟨_, id, there, on, outcome.imp (fun known => ⟨Phase.hasRecorded_cutOff _ _, kept known.2⟩)
      fun missed => ?_⟩
    rw [missed.1.not_point] at point
    cases point

/-- Of a submission that was refused, in whatever order submissions went on, an action with an id that it generated
is in the store if and only if it was refused because the commit of the status found the lease lost. -/
theorem refused_recorded_iff (reached : Runs environment order start w₀)
    (generated : w₀.Generated environment index number w₁) (later : Runs environment order w₁ w)
    (here : w.calls[index]? = some call) {refusal : Refusal}
    (ended : call.phase = .done (.error (.refused refusal))) :
    w.KeepsAction (idText "ACT" number) ↔ refusal = .leaseLost call.submission.requestId := by
  obtain ⟨ledger, holds, -⟩ := reached.holds holds_start
  obtain ⟨middle, holdsAfter, changes⟩ := holds.take generated.step
  obtain ⟨after, holdsLater, -, call', id, there, on, outcome⟩ := later.preserves (P := Spent index number)
    (fun holds spent _ _ changes _ => changes.spent holds spent) holdsAfter
    (holds.spent_of_generated generated changes)
  obtain rfl := Option.some.inj (here.symm.trans there)
  rw [holdsLater.keepsAction_iff, on.requestId]
  rcases outcome with ⟨recorded, known⟩ | ⟨missed, -, missing⟩
  · rw [ended] at recorded
    exact ⟨fun _ => recorded refusal rfl, fun _ => known⟩
  · rw [ended] at missed
    constructor
    · rintro ⟨action, member, numbered⟩
      exact absurd numbered (missing action member)
    · rintro rfl
      exact absurd rfl (missed (.text id))

end World

/-! ### Refusals before and after an action is recorded -/

/-- The refusal that a submission came to its end with. -/
def Phase.refusal? : Phase → Option Refusal
  | done (.error (.refused refusal)) => some refusal
  | _ => none

theorem Phase.eq_done_of_refusal? {phase : Phase} {refusal : Refusal}
    (refused : phase.refusal? = some refusal) : phase = .done (.error (.refused refusal)) := by
  unfold refusal? at refused
  split at refused
  · rw [Option.some.inj refused]
  · cases refused

namespace Trial

/-- A role is about to approve and loses the lease when it has read the history. The same role approves before
that submission comes to record its action. -/
def approvedMeanwhile : List World.Event :=
  opening ["X"] ++ [acts "X" .approve] ++ goesOn 0 2
    ++ [.shift { clock := Session.beginning + 31 * Session.tick }]
    ++ [acts "X" .approve] ++ goesOn 1 8 ++ goesOn 0 1

/-- The same, but the other submission is one of a role that the request does not ask for, and is refused. -/
def askedMeanwhile : List World.Event :=
  opening ["X"] ++ [acts "X" .approve] ++ goesOn 0 2
    ++ [.shift { clock := Session.beginning + 31 * Session.tick }]
    ++ [acts "Z" .approve] ++ goesOn 1 5 ++ goesOn 0 1

end Trial

namespace World

/-- Whether the next step of the first submission takes the number of an action and the submission is then refused,
with a refusal and in a world that pass a test. -/
def firstRefused (number : Nat) (test : Refusal → World → Bool) (w₀ : World) : Bool :=
  (w₀.take Trial.environment (.advance 0)).any fun w₁ =>
    decide (w₀.state.taken "ACT" < number ∧ number ≤ w₁.state.taken "ACT") &&
      (w₁.play Trial.environment inTurn (Trial.goesOn 0 3)).any fun w =>
        w.calls[0]?.any fun call => call.phase.refusal?.any fun refusal => test refusal w

theorem exists_of_firstRefused {events : List Event} (number : Nat) (test : Refusal → World → Bool)
    (played : (start.play Trial.environment inTurn events).any (firstRefused number test) = true) :
    ∃ w₀ w₁ w call refusal, Runs Trial.environment inTurn start w₀ ∧
      w₀.Generated Trial.environment 0 number w₁ ∧ Runs Trial.environment inTurn w₁ w ∧
      w.calls[0]? = some call ∧ call.phase = .done (.error (.refused refusal)) ∧ test refusal w = true := by
  obtain ⟨w₀, reached, found⟩ := Runs.exists_of_play played
  obtain ⟨w₁, step, found⟩ := (Option.any_eq_true _ _).1 found
  obtain ⟨numbers, found⟩ := Bool.and_eq_true_iff.1 found
  obtain ⟨after, upTo⟩ := of_decide_eq_true numbers
  obtain ⟨w, later, found⟩ := Runs.exists_of_play found
  obtain ⟨call, here, found⟩ := (Option.any_eq_true _ _).1 found
  obtain ⟨refusal, refused, passes⟩ := (Option.any_eq_true _ _).1 found
  exact ⟨w₀, w₁, w, call, refusal, reached, ⟨step, after, upTo⟩, later, here,
    Phase.eq_done_of_refusal? refused, passes⟩

/-- The second approval of a role takes a number and is refused, and no action with that number is in the store. -/
theorem refused_recorded_iff_of_second_approval :
    ∃ w₀ w₁ w call refusal, Runs Trial.environment inTurn start w₀ ∧
      w₀.Generated Trial.environment 0 2 w₁ ∧ Runs Trial.environment inTurn w₁ w ∧
      w.calls[0]? = some call ∧ call.phase = .done (.error (.refused refusal)) ∧
      refusal.kind = .duplicateApproval ∧ ¬ w.KeepsAction (idText "ACT" 2) := by
  obtain ⟨w₀, w₁, w, call, refusal, reached, generated, later, here, ended, kind⟩ :=
    exists_of_firstRefused 2 (fun refusal _ => refusal.kind = .duplicateApproval)
      (show (start.play Trial.environment inTurn Trial.approvedMeanwhile).any _ = true by decide +kernel)
  have kind : refusal.kind = .duplicateApproval := of_decide_eq_true kind
  refine ⟨w₀, w₁, w, call, refusal, reached, generated, later, here, ended, kind, fun keeps => ?_⟩
  rw [(refused_recorded_iff reached generated later here ended).1 keeps] at kind
  cases kind

/-- It is not so that nothing is recorded by whoever is refused: a submission that lost its lease to one that was
refused itself has its action in the store. -/
theorem not_unrecorded_of_refused :
    ¬ ∀ (environment : Session.Environment) (w₀ w₁ w : World) (index number : Nat) (call : Call)
      (refusal : Refusal), Runs environment inTurn start w₀ → w₀.Generated environment index number w₁ →
        Runs environment inTurn w₁ w → w.calls[index]? = some call →
        call.phase = .done (.error (.refused refusal)) → ¬ w.KeepsAction (idText "ACT" number) := by
  intro unrecorded
  obtain ⟨w₀, w₁, w, call, refusal, reached, generated, later, here, ended, found⟩ :=
    exists_of_firstRefused 1 (fun _ w => w.state.store.actions.any fun document =>
        (Fields.getD document "action_id").text? == some (idText "ACT" 1))
      (show (start.play Trial.environment inTurn Trial.askedMeanwhile).any _ = true by decide +kernel)
  refine unrecorded Trial.environment w₀ w₁ w 0 1 call refusal reached generated later here ended ?_
  obtain ⟨document, member, named⟩ := List.any_eq_true.1 found
  refine ⟨document, member, ?_⟩
  rw [Fields.getD] at named
  cases known : Fields.get? document "action_id" with
  | none => simp [known, Value.text?] at named
  | some v => cases v <;> simp_all [Value.text?]

end World

end Countersign
