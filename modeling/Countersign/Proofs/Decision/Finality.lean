/-
Module: Countersign.Proofs.Decision.Finality
Purpose: A request that is decided stays as it is, and one submission at most has decided it.
Main exports: Phase.changes, Phase.Moves.changes, Call.Decided, World.OneChange, World.decided_stays
-/
import Countersign.Proofs.World.Invariant

namespace Countersign

open Service

/-!
A status is written without a look at the one before, but only for the holder of the lease, and the request that
a holder read is still the stored one. So nobody writes over a decision. A submission that reports a change found
its request pending when it wrote the status, which no two submissions on one request can have done.
-/

namespace Phase

/-- The outcome that a submission is about to report, or has reported. -/
def outcome? : Phase → Option (Except Failure ActionResult)
  | releasing outcome => some outcome
  | announcing result => some (.ok result)
  | done outcome => some outcome
  | _ => none

/-- Whether a submission reports that it changed the status of its request. -/
def changes (phase : Phase) : Bool :=
  match phase.outcome? with
  | some (.ok result) => result.statusChanged
  | _ => false

variable {ledger after : Ledger} {id token : String} {phase next : Phase}

@[simp] theorem changes_onFailure (phase : Phase) (failure : Failure) :
    (phase.onFailure failure).changes = false := by
  cases phase <;> rfl

@[simp] theorem changes_cutOff (phase : Phase) : phase.cutOff.changes = false := by
  cases phase <;> rfl

@[simp] theorem changes_afterRelease (outcome : Except Failure ActionResult) :
    (afterRelease outcome).changes = (releasing outcome).changes := by
  cases outcome <;> rfl

/-- A submission that reports a change knows that its request is decided. -/
theorem Knows.decided (knows : phase.Knows ledger id token) (changes : phase.changes = true) :
    ∃ holding ∈ ledger.requests, holding.request.id = id ∧ holding.request.status.isTerminal = true := by
  have decided {outcome : Except Failure ActionResult} (reports : ledger.Reports id outcome)
      (changes : (releasing outcome).changes = true) :
      ∃ holding ∈ ledger.requests, holding.request.id = id ∧
        holding.request.status.isTerminal = true := by
    cases outcome with
    | error failure => cases changes
    | ok result =>
        obtain ⟨about, changed⟩ := reports result rfl
        obtain ⟨terminal, holding, member, same⟩ := changed changes
        exact ⟨holding, member, same ▸ about, same ▸ terminal⟩
  cases phase with
  | releasing outcome => exact decided knows changes
  | announcing result => exact decided knows changes
  | done outcome => exact decided knows changes
  | _ => cases changes

/-- Only a submission that finds its request pending comes to report a change. -/
theorem Moves.changes {call : Submission} {down : Bool}
    (knows : phase.Knows ledger id call.token)
    (moves : Moves call id down ledger phase after next) (reports : next.changes = true) :
    phase.changes = true ∨
      ∃ holding ∈ ledger.requests, holding.request.id = id ∧ holding.request.status = .pending := by
  cases moves with
  | failed failure fails => rw [changes_onFailure] at reports; cases reports
  | committed up holding member same held =>
      obtain ⟨carries, -, pending, -⟩ := knows
      refine Or.inr ⟨holding, member, same, ?_⟩
      rw [carries.fenced holding member same held]
      exact pending
  | released up holding member same held =>
      rw [changes_afterRelease] at reports
      exact Or.inl reports
  | lost up other =>
      rw [changes_afterRelease] at reports
      exact Or.inl reports
  | announced changed up => exact Or.inl changed
  | quiet unchanged => exact Or.inl reports
  | ended => exact Or.inl reports
  | _ => cases reports

end Phase

/-- A submission on a request that came to its end and changed the status of the request. -/
def Call.Decided (call : Call) (id : String) : Prop :=
  call.submission.requestId = .text id ∧
    ∃ result, call.phase = .done (.ok result) ∧ result.statusChanged = true

theorem Call.Decided.changes {call : Call} {id : String} (decided : call.Decided id) :
    call.phase.changes = true := by
  obtain ⟨-, result, ended, changed⟩ := decided
  rw [ended]
  exact changed

theorem Call.decided_of_isDone {call : Call} {id : String} (ended : call.isDone = true)
    (changes : call.phase.changes = true) (about : call.submission.requestId.text? = some id) :
    call.Decided id := by
  obtain ⟨submission, phase⟩ := call
  constructor
  · cases given : submission.requestId with
    | text s =>
        simp only [given, Value.text?, Option.some.injEq] at about
        rw [about]
    | _ => simp [given, Value.text?] at about
  · cases phase with
    | done outcome =>
        cases outcome with
        | ok result => exact ⟨result, rfl, changes⟩
        | error failure => cases changes
    | _ => cases ended

namespace World

variable {environment : Session.Environment} {order : Order} {w w' : World} {ledger after : Ledger}
  {event : Event}

/-- No two submissions on one request report that they changed its status. -/
def OneChange (w : World) : Prop :=
  ∀ {id : String} {first second : Nat} {one two : Call}, w.calls[first]? = some one →
    w.calls[second]? = some two → one.submission.requestId = .text id →
    two.submission.requestId = .text id → one.phase.changes = true → two.phase.changes = true →
    first = second

namespace OneChange

/-- Where one submission goes on, it comes to report a change only when no other on its request does. -/
theorem replaced {s : ServiceState} {index : Nat} {call : Call} {next : Phase} (one : w.OneChange)
    (here : w.calls[index]? = some call)
    (alone : next.changes = true → call.phase.changes = true ∨
      ∀ {other : Nat} {another : Call}, w.calls[other]? = some another →
        another.submission.requestId = call.submission.requestId → another.phase.changes = false) :
    OneChange ⟨s, w.calls.set index { call with phase := next }⟩ := by
  -- The submission that went on is either one of two that reported a change before, or no other does.
  have apart {other : Nat} {another : Call} (there : w.calls[other]? = some another)
      (same : another.submission.requestId = call.submission.requestId) {id : String}
      (about : call.submission.requestId = .text id) (changes : another.phase.changes = true)
      (reports : next.changes = true) : other = index := by
    rcases alone reports with before | others
    · exact one there here (same.trans about) about changes before
    · rw [others there same] at changes
      cases changes
  intro id first second a b atFirst atSecond aboutFirst aboutSecond changesFirst changesSecond
  rcases (getElem?_set_iff here).1 atFirst with ⟨rfl, rfl⟩ | ⟨-, early⟩ <;>
    rcases (getElem?_set_iff here).1 atSecond with ⟨rfl, rfl⟩ | ⟨-, late⟩
  · rfl
  · exact (apart late (aboutSecond.trans aboutFirst.symm) aboutFirst changesSecond changesFirst).symm
  · exact apart early (aboutFirst.trans aboutSecond.symm) aboutSecond changesFirst changesSecond
  · exact one early late aboutFirst aboutSecond changesFirst changesSecond

end OneChange

/-- What every event keeps: one submission at most has changed the status of a request. -/
theorem Changes.oneChange (changes : w.Changes ledger event w' after) (holds : w.Holds ledger)
    (one : w.OneChange) : w'.OneChange := by
  cases changes with
  | commanded commanded down => exact one
  | shifted => exact one
  | submitted on =>
      intro id first second a b atFirst atSecond aboutFirst aboutSecond changesFirst changesSecond
      rcases getElem?_concat_iff.1 atFirst with early | ⟨-, rfl⟩
      · rcases getElem?_concat_iff.1 atSecond with late | ⟨-, rfl⟩
        · exact one early late aboutFirst aboutSecond changesFirst changesSecond
        · cases changesSecond
      · cases changesFirst
  | @advanced s index call id next _ here on knows moves down =>
      refine one.replaced here fun reports => (moves.changes knows reports).imp_right ?_
      rintro ⟨holding, member, about, pending⟩ other another there same
      by_contra reported
      obtain ⟨otherId, otherOn, known⟩ := holds.knows there
      obtain ⟨decided, found, sameId, terminal⟩ := known.decided (by simpa using reported)
      -- Both submissions are on the request that is pending here and decided there.
      have equal : otherId = id := Value.text.inj (otherOn.requestId.symm.trans (same.trans on.requestId))
      obtain rfl := holds.sound.eq_of_id found member (by rw [sameId, about, equal])
      rw [pending] at terminal
      cases terminal
  | cut here point =>
      apply one.replaced here
      intro reports
      rw [Phase.changes_cutOff] at reports
      cases reports

/-- A request that was decided when a world was reached is got as it was then for ever, and of all submissions
on a request that were made until any later time, at most one has come to its end with a change of the status. -/
theorem decided_stays (reached : Runs environment order start w) (later : Runs environment order w w') :
    (∀ request, w.Stores request → request.status.isTerminal = true →
      exec (RequestStore.get (.text request.id)) w'.reachable = (.ok request, w'.reachable)) ∧
    ∀ {id : String} {first second : Nat} {one two : Call}, w'.calls[first]? = some one →
      w'.calls[second]? = some two → one.Decided id → two.Decided id → first = second := by
  obtain ⟨ledger, holds, -, one⟩ := reached.preserves (P := fun w _ => w.OneChange)
    (fun holds one _ _ changes _ => changes.oneChange holds one) holds_start
    (fun atFirst => by cases atFirst)
  obtain ⟨after, holdsLater, evolves, oneLater⟩ := later.preserves (P := fun w _ => w.OneChange)
    (fun holds one _ _ changes _ => changes.oneChange holds one) holds one
  constructor
  · intro request stored terminal
    obtain ⟨holding, member, rfl⟩ := holds.stores_iff.1 stored
    obtain ⟨last, found, same⟩ := evolves.decided holding member terminal
    rw [← same]
    exact holdsLater.exec_get found
  · intro id first second a b atFirst atSecond decidedFirst decidedSecond
    exact oneLater atFirst atSecond decidedFirst.1 decidedSecond.1 decidedFirst.changes
      decidedSecond.changes

/-- The request that both roles approved is got unchanged after another submission took the lease on it and was
cut off. Nobody but the second submission has decided it. -/
theorem decided_stays_after_two_approvals :
    ∃ w w' request, Runs Trial.environment anyOrder start w ∧ Runs Trial.environment anyOrder w w' ∧
      w'.calls.length = 3 ∧ w.Stores request ∧ request.status = .approved ∧
      exec (RequestStore.get (.text request.id)) w'.reachable = (.ok request, w'.reachable) ∧
      ∀ {other another}, w'.calls[other]? = some another → another.Decided Trial.requestId → other = 1 := by
  obtain ⟨w, reached, found⟩ := Runs.exists_of_play
    (p := fun w => w.storesAny (fun request => request.status == .approved) &&
      (w.play Trial.environment anyOrder
        [.shift { clock := 0 }, Trial.acts "X" .reject, .advance 2, .cut 2]).any fun w' =>
          w'.calls.length == 3 && w'.calls[1]?.any fun call => call.isDone && call.phase.changes &&
            call.submission.requestId.text? == some Trial.requestId)
    (show (start.play Trial.environment anyOrder Trial.bothApprove).any _ = true by decide +kernel)
  obtain ⟨keeps, played⟩ := Bool.and_eq_true_iff.1 found
  obtain ⟨w', later, known⟩ := Runs.exists_of_play played
  obtain ⟨three, second⟩ := Bool.and_eq_true_iff.1 known
  obtain ⟨call, here, decides⟩ := (Option.any_eq_true _ _).1 second
  obtain ⟨ended, about⟩ := Bool.and_eq_true_iff.1 decides
  obtain ⟨ended, changes⟩ := Bool.and_eq_true_iff.1 ended
  have decided := Call.decided_of_isDone ended changes (beq_iff_eq.1 about)
  obtain ⟨request, stored, approved⟩ := exists_of_storesAny keeps
  have status : request.status = .approved := by simpa using approved
  obtain ⟨stays, once⟩ := decided_stays reached later
  exact ⟨w, w', request, reached, later, by simpa using three, stored, status,
    stays request stored (by rw [status]; rfl), fun there also => once there here also decided⟩

end World

end Countersign
