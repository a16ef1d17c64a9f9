/-
Module: Countersign.Proofs.World.Progress
Purpose: Submissions that are under way can always be brought to their end.
Main exports: World.Able, World.Runs.able, Call.stepsLeft, World.Able.exists_lower, World.Able.exists_ended,
  World.Able.exists_ended_on
-/
import Countersign.Proofs.Submission.Endings
import Countersign.Proofs.World.Requests

namespace Countersign

open Service

/-!
No submission is ever stuck: as long as it has not ended it can take its next step, whatever the others have done, and
each step lowers its rank. So the ranks of all submissions together bound the steps that are left, when no more are
made.
-/

namespace Phase

/-- A submission whose connection broke has nothing left to try. -/
theorem mayTry_cutOff (phase : Phase) (call : Submission) : phase.cutOff.MayTry call := by
  cases phase <;> trivial

/-- A submission that takes a step may take the next one. -/
theorem mayTry_step {phase next : Phase} {call : Submission} {s s' : ServiceState} (may : phase.MayTry call)
    (ran : exec (phase.step call) s = (.ok next, s')) : next.MayTry call := by
  rcases Nat.eq_zero_or_pos (phase.rank call) with none | running
  · obtain ⟨outcome, rfl⟩ := eq_done_of_rank none
    cases ran
    trivial
  · obtain ⟨other, after, stepped, below⟩ := step_below may running s
    rw [stepped] at ran
    cases ran
    exact below.1

end Phase

namespace Call

/-- How many steps a submission may still take. -/
def rank (call : Call) : Nat := call.phase.rank call.submission

theorem isDone_of_rank {call : Call} (none : call.rank = 0) : call.isDone = true := by
  obtain ⟨outcome, ended⟩ := Phase.eq_done_of_rank none
  rw [isDone, ended]

/-- How many steps submissions together may still take. -/
def stepsLeft : List Call → Nat
  | [] => 0
  | call :: rest => call.rank + stepsLeft rest

/-- One submission that has fewer steps left leaves fewer to all of them. -/
theorem stepsLeft_lower {front back : List Call} {call later : Call} (less : later.rank < call.rank) :
    stepsLeft (front ++ later :: back) < stepsLeft (front ++ call :: back) := by
  induction front with
  | nil => exact Nat.add_lt_add_right less _
  | cons other rest ih => exact Nat.add_lt_add_left ih _

end Call

namespace World

variable {environment : Session.Environment} {order : Order} {w w' : World} {event : Event}

/-- Every submission may take its next step. -/
def Able (w : World) : Prop := ∀ call ∈ w.calls, call.phase.MayTry call.submission

theorem able_start : start.Able := fun _ within => by cases within

/-- One submission goes on to a phase from which it may take its next step. -/
theorem Able.set (able : w.Able) {index : Nat} {call : Call} {next : Phase} (may : next.MayTry call.submission)
    (s : ServiceState) : Able ⟨s, w.calls.set index { call with phase := next }⟩ := by
  intro other member
  rcases List.mem_or_eq_of_mem_set member with known | rfl
  · exact able other known
  · exact may

/-- Every event keeps this. -/
theorem Able.take (able : w.Able) (taken : w.take environment event = some w') : w'.Able := by
  cases becomes_of_take taken with
  | command command => exact able
  | shift around => exact able
  | submit =>
      intro call member
      rcases List.mem_append.1 member with known | new
      · exact able call known
      · obtain rfl := List.mem_singleton.1 new
        trivial
  | @advance index call phase s here ran =>
      exact able.set (Phase.mayTry_step (able call (List.mem_of_getElem? here)) ran) s
  | cut here point => exact able.set (Phase.mayTry_cutOff _ _) w.state

theorem Runs.able (runs : Runs environment order w w') (able : w.Able) : w'.Able := by
  induction runs with
  | stay => exact able
  | next before event allowed taken ih => exact ih.take taken

/-- A submission that has not ended takes its next step, and all together have fewer steps left. -/
theorem Able.exists_lower (environment : Session.Environment) (able : w.Able) {call : Call}
    (member : call ∈ w.calls) (going : ¬ call.isDone = true) :
    ∃ index w', w.take environment (.advance index) = some w' ∧
      w'.calls.map (·.submission) = w.calls.map (·.submission) ∧
      Call.stepsLeft w'.calls < Call.stepsLeft w.calls := by
  have running : 0 < call.rank := Nat.pos_of_ne_zero fun none => going (Call.isDone_of_rank none)
  obtain ⟨next, s, stepped, below⟩ := Phase.step_below (able call member) running w.state
  obtain ⟨front, back, split⟩ := List.append_of_mem member
  have here : w.calls[front.length]? = some call := by simp [split]
  have became : w.calls.set front.length { call with phase := next } =
      front ++ { call with phase := next } :: back := by
    simp [split]
  refine ⟨front.length, ⟨s, front ++ { call with phase := next } :: back⟩, ?_, by simp [split], ?_⟩
  · simp only [World.take, here, stepped, became]
  · rw [split]
    exact Call.stepsLeft_lower below.2

/-- Where submissions may go on at any time, all that are under way come to their end in some run, and no others are
made in it. -/
theorem Able.exists_ended (able : w.Able) (free : ∀ w index, order w (.advance index) = true) :
    ∃ w', Runs environment order w w' ∧ w'.calls.map (·.submission) = w.calls.map (·.submission) ∧
      ∀ call ∈ w'.calls, call.isDone = true := by
  induction left : Call.stepsLeft w.calls using Nat.strong_induction_on generalizing w with
  | h steps ih =>
      by_cases ended : ∀ call ∈ w.calls, call.isDone = true
      · exact ⟨w, .stay, rfl, ended⟩
      · simp only [not_forall] at ended
        obtain ⟨call, member, going⟩ := ended
        obtain ⟨index, middle, taken, same, lower⟩ := able.exists_lower environment member going
        obtain ⟨last, runs, still, complete⟩ := ih _ (left ▸ lower) (able.take taken) rfl
        exact ⟨last, (Runs.next .stay _ (free w index) taken).trans runs, still.trans same, complete⟩

/-- Worlds with the same submissions have the same submissions on a request. -/
theorem submissions_callsOn (same : w'.calls.map (·.submission) = w.calls.map (·.submission)) (id : String)
    (since : Nat) :
    (w'.callsOn id since).map (·.submission) = (w.callsOn id since).map (·.submission) := by
  have on (calls : List Call) : (calls.filter (Call.isOn id)).map (·.submission) =
      (calls.map (·.submission)).filter fun submission => submission.requestId.text? == some id := by
    rw [List.filter_map]
    rfl
  rw [callsOn, callsOn, on, on, List.map_drop, List.map_drop, same]

/-- The submissions on a request come to their end in some run, and no others are made on it. -/
theorem Able.exists_ended_on (able : w.Able) (free : ∀ w index, order w (.advance index) = true) (id : String)
    (since : Nat) :
    ∃ w', Runs environment order w w' ∧
      (w'.callsOn id since).map (·.submission) = (w.callsOn id since).map (·.submission) ∧
      ∀ call ∈ w'.callsOn id since, call.isDone = true := by
  obtain ⟨w', runs, same, ended⟩ := able.exists_ended free
  refine ⟨w', runs, submissions_callsOn same id since, fun call member => ?_⟩
  obtain ⟨index, here⟩ := mem_calls_of_mem_callsOn member
  exact ended call (List.mem_of_getElem? here)

end World

end Countersign
