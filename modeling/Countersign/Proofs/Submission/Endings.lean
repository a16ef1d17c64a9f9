/-
Module: Countersign.Proofs.Submission.Endings
Purpose: A submission comes to its end within the steps that it is given.
Main exports: Service.Answers, Phase.MayTry, Phase.step_below, Phase.cutOff_below
-/
import Countersign.Approval.Submission
import Countersign.Proofs.Service.Execution

namespace Countersign

open Service

/-!
The rank of a phase goes down with every step, also where the step fails and where the connection breaks. Only a
submission that found the lease taken goes back, to try once more; it has a try less then, and there is always one
left when it does.
-/

namespace Service

variable {α β : Type}

/-- Every answer that a part of a command gives passes a test. -/
def Answers (part : Service α) (passes : α → Prop) : Prop :=
  ∀ (s s' : ServiceState) (a : α), exec part s = (.ok a, s') → passes a

namespace Answers

variable {passes : β → Prop}

theorem pure {b : β} (holds : passes b) : Answers (pure b) passes := by
  intro s s' a ran
  cases ran
  exact holds

theorem throw {failure : Failure} : Answers (throw failure : Service β) passes := by
  intro s s' a ran
  cases ran

theorem bind {part : Service α} {next : α → Service β} (later : ∀ a, Answers (next a) passes) :
    Answers (part >>= next) passes := by
  intro s s' b ran
  rw [exec_bind] at ran
  split at ran
  · exact later _ _ _ _ ran
  · cases ran

theorem ite {condition : Prop} [Decidable condition] {part other : Service β}
    (holds : condition → Answers part passes) (fails : ¬condition → Answers other passes) :
    Answers (if condition then part else other) passes := by
  split
  · next yes => exact holds yes
  · next no => exact fails no

end Answers

end Service

namespace Phase

variable {call : Submission} {phase : Phase}

/-- A submission that found the lease taken has not tried for it as often as it may. -/
def MayTry (call : Submission) : Phase → Prop
  | probing tries => (tries : Int) < call.terms.attempts
  | waiting tries => (tries : Int) < call.terms.attempts
  | _ => True

/-- A phase that a submission may go on to from one of a rank. -/
def Below (call : Submission) (bound : Nat) (next : Phase) : Prop :=
  next.MayTry call ∧ next.rank call < bound

theorem onFailure_below (failure : Failure) (running : 0 < phase.rank call) :
    (phase.onFailure failure).Below call (phase.rank call) := by
  constructor
  · cases phase <;> trivial
  · cases phase with
    | done outcome => exact absurd running (Nat.lt_irrefl 0)
    | _ =>
        simp only [onFailure, rank]
        omega

/-- Where a phase goes on when it does not fail, a submission has fewer steps left. -/
theorem advance_below (may : phase.MayTry call) (running : 0 < phase.rank call) :
    Answers (phase.advance call) (Below call (phase.rank call)) := by
  have later {next : Phase} (may : next.MayTry call) (less : next.rank call < phase.rank call) :
      Answers (pure next) (Below call (phase.rank call)) := .pure ⟨may, less⟩
  -- One case for each phase. Only the search for the lease can come back to a phase in front of it, and a new try
  -- counts there: all other steps go to a phase of lower rank.
  cases phase with
  | claiming tries =>
      apply Answers.ite
      · intro spent
        apply Answers.bind
        intro _
        exact .throw
      · intro left
        apply Answers.bind
        intro found
        cases found with
        | some request => exact later trivial (by simp only [rank]; omega)
        | none => exact later (Int.not_le.1 left) (by simp only [rank]; omega)
  | probing tries =>
      apply Answers.bind
      intro _
      exact later may (by simp only [rank]; omega)
  | waiting tries =>
      have once : (claiming (tries + 1)).rank call < (waiting tries).rank call := by
        have left : (tries : Int) < call.terms.attempts := may
        simp only [rank]
        omega
      apply Answers.ite
      · intro more
        apply Answers.bind
        intro _
        exact later trivial once
      · intro last
        exact later trivial once
  | leased request =>
      apply Answers.bind
      intro history
      exact later trivial (by simp [rank])
  | informed request history =>
      apply Answers.ite
      · intro inLine
        exact later trivial (by simp [rank])
      · intro lagging
        apply Answers.bind
        intro _
        apply Answers.bind
        intro time
        apply Answers.bind
        intro found
        exact later trivial (by simp [rank])
  | restoring request history ticketId time =>
      apply Answers.bind
      intro found
      cases found with
      | some committed => exact later trivial (by simp [rank])
      | none => exact .throw
  | spreading request history =>
      apply Answers.bind
      intro _
      exact later trivial (by simp [rank])
  | judging request history =>
      rw [advance]
      split
      · exact .throw
      · apply Answers.bind
        intro action
        exact later trivial (by simp [rank])
  | recorded request history action =>
      apply Answers.bind
      intro time
      apply Answers.bind
      intro found
      exact later trivial (by simp [rank])
  | committing request history action ticketId time =>
      apply Answers.bind
      intro found
      cases found with
      | some committed => exact later trivial (by simp [rank])
      | none => exact .throw
  | releasing outcome =>
      apply Answers.bind
      intro _
      cases outcome with
      | ok result => exact later trivial (by simp [rank])
      | error failure => exact .throw
  | announcing result =>
      apply Answers.bind
      intro _
      apply Answers.ite
      · intro changed
        apply Answers.bind
        intro _
        exact later trivial (by simp [rank])
      · intro unchanged
        exact later trivial (by simp [rank])
  | done outcome => exact absurd running (Nat.lt_irrefl 0)

/-- A submission that has not ended takes a step without failing, and it then has fewer steps left. -/
theorem step_below (may : phase.MayTry call) (running : 0 < phase.rank call) (s : ServiceState) :
    ∃ next s', exec (phase.step call) s = (.ok next, s') ∧ next.Below call (phase.rank call) := by
  cases ran : exec (phase.advance call) s with
  | mk outcome s' =>
      cases outcome with
      | ok next =>
          refine ⟨next, s', ?_, advance_below may running _ _ _ ran⟩
          rw [step, exec_bind, exec_attempt, ran]
          rfl
      | error failure =>
          refine ⟨phase.onFailure failure, s', ?_, onFailure_below failure running⟩
          rw [step, exec_bind, exec_attempt, ran]
          rfl

/-- Where the connection breaks, a submission goes on with no more steps than before. -/
theorem cutOff_below {bound : Nat} (below : phase.Below call bound)
    (point : phase.point?.isSome = true) : phase.cutOff.Below call bound := by
  cases phase with
  | leased request => exact ⟨trivial, Nat.lt_of_le_of_lt (Nat.zero_le _) below.2⟩
  | waiting tries => exact ⟨trivial, Nat.lt_of_le_of_lt (Nat.zero_le _) below.2⟩
  | informed request history =>
      exact ⟨trivial, Nat.lt_of_le_of_lt (by simp [cutOff, onFailure, rank]) below.2⟩
  | recorded request history action =>
      exact ⟨trivial, Nat.lt_of_le_of_lt (by simp [cutOff, onFailure, rank]) below.2⟩
  | _ => cases point

/-- A submission without steps left has ended. -/
theorem eq_done_of_rank (none : phase.rank call = 0) : ∃ outcome, phase = done outcome := by
  cases phase with
  | done outcome => exact ⟨outcome, rfl⟩
  | claiming tries => simp [rank] at none
  | probing tries => simp [rank] at none
  | waiting tries => simp [rank] at none
  | _ => cases none

end Phase

end Countersign
