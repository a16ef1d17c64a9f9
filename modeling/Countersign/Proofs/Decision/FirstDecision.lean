/-
Module: Countersign.Proofs.Decision.FirstDecision
Purpose: The first decisive action of a history decides it, and what does not touch that action changes nothing.
Main exports: ApprovalStatus.Covered, ApprovalStatus.RejectedIn, ApprovalStatus.ApprovedIn, Action.counts,
  ApprovalStatus.ofActions_decided_first
-/
import Countersign.Proofs.Decision.Replay
import Mathlib.Data.List.Perm.Basic

namespace Countersign

/-!
What a history amounts to is told here without replaying it. A rejection by a required role decides unless all
required roles have approved in front of it, and the end of a part in which they all have approved decides unless one
of them has rejected in that part. Both speak of the required roles as a set and of the actions that count alone, so
nothing else about the roles or the history matters; and where nobody rejects, neither does the order of actions.
-/

namespace ApprovalStatus

variable {required roles : List String} {role : String} {front back steps others : List (String × Decision)}

/-! ### Replayed steps -/

/-- A history that is pending is decided by the next rejection of a required role. -/
theorem ofHistory_reject (waits : ofHistory required front = pending) (needed : role ∈ required) :
    ofHistory required (front ++ (role, .reject) :: back) = rejected := by
  rw [ofHistory_append_of_pending waits, replay_cons, if_pos (List.contains_iff_mem.2 needed)]

/-- No required role has rejected in a history that is pending. -/
theorem not_reject_of_pending (waits : ofHistory required steps = pending) (needed : role ∈ required) :
    (role, Decision.reject) ∉ steps := by
  intro within
  obtain ⟨front, back, rfl⟩ := List.append_of_mem within
  by_cases early : (ofHistory required front).isTerminal = true
  · rw [ofHistory_append_of_terminal early] at waits
    rw [waits] at early
    cases early
  · rw [ofHistory_reject (eq_pending_of_not_terminal early) needed] at waits
    cases waits

/-- Where nobody is required, nothing is decided. -/
theorem ofHistory_nobody : ofHistory [] steps = pending := by
  have waits (soFar : List String) : replay [] soFar steps = pending := by
    induction steps with
    | nil => rfl
    | cons step rest ih =>
        obtain ⟨role, decision⟩ := step
        rw [replay_cons]
        simpa using ih
  exact waits []

/-- A history amounts to a rejection where a required role rejects and not all required roles have approved in front
of that. -/
theorem ofHistory_eq_rejected_iff :
    ofHistory required steps = rejected ↔
      ∃ front role back, steps = front ++ (role, Decision.reject) :: back ∧ role ∈ required ∧
        ¬ ∀ other ∈ required, (other, Decision.approve) ∈ front := by
  constructor
  · intro decided
    obtain ⟨front, step, back, rfl, waits, decides⟩ := exists_deciding (by rw [decided]; rfl)
    have alone := (decides front [] (List.Subset.refl front) waits).trans decided
    obtain ⟨role, needed, within⟩ := exists_reject alone
    have last : (role, Decision.reject) = step := by
      rcases List.mem_append.1 within with early | here
      · exact absurd early (not_reject_of_pending waits needed)
      · exact List.mem_singleton.1 here
    obtain ⟨other, wanted, absent⟩ := exists_missing waits (List.ne_nil_of_mem needed)
    exact ⟨front, role, back, by rw [last], needed, fun all => absent (all other wanted)⟩
  · rintro ⟨front, role, back, rfl, needed, uncovered⟩
    cases standing : ofHistory required front with
    | pending => exact ofHistory_reject standing needed
    | approved => exact absurd (exists_approve standing) uncovered
    | rejected =>
        rw [ofHistory_append_of_terminal (by rw [standing]; rfl), standing]

/-- A history amounts to an approval where in some part at its beginning all required roles have approved and none of
them has rejected. -/
theorem ofHistory_eq_approved_iff :
    ofHistory required steps = approved ↔
      required ≠ [] ∧ ∃ front, front <+: steps ∧ (∀ role ∈ required, (role, Decision.approve) ∈ front) ∧
        ∀ role ∈ required, (role, Decision.reject) ∉ front := by
  constructor
  · intro decided
    obtain ⟨front, step, back, rfl, waits, decides⟩ := exists_deciding (by rw [decided]; rfl)
    have alone := (decides front [] (List.Subset.refl front) waits).trans decided
    refine ⟨?_, front ++ [step], ⟨back, by simp⟩, exists_approve alone, fun role needed within => ?_⟩
    · rintro rfl
      rw [ofHistory_nobody] at decided
      cases decided
    · rcases List.mem_append.1 within with early | here
      · exact not_reject_of_pending waits needed early
      · rw [← List.mem_singleton.1 here, ofHistory_reject waits needed] at alone
        cases alone
  · rintro ⟨anybody, front, ⟨back, rfl⟩, all, nobody⟩
    have early := ofHistory_eq_approved anybody all nobody
    rw [ofHistory_append_of_terminal (by rw [early]; rfl), early]

/-- Of the required roles only matters which they are. -/
theorem ofHistory_congr (same : ∀ role, role ∈ roles ↔ role ∈ required) :
    ofHistory roles steps = ofHistory required steps := by
  have contained (role : String) : roles.contains role = required.contains role := by
    rw [Bool.eq_iff_iff, List.contains_iff_mem, List.contains_iff_mem, same]
  have covered (soFar : List String) : covers soFar roles = covers soFar required := by
    rw [Bool.eq_iff_iff, covers_iff, covers_iff]
    exact forall_congr' fun role => imp_congr_left (same role)
  have replayed (soFar : List String) : replay roles soFar steps = replay required soFar steps := by
    induction steps generalizing soFar with
    | nil => rfl
    | cons step rest ih =>
        obtain ⟨role, decision⟩ := step
        simp only [replay_cons, contained, covered, ih]
  exact replayed []

/-- Where no required role rejects, a history amounts to an approval as soon as all of them have approved. -/
theorem ofHistory_of_no_reject (nobody : ∀ role ∈ required, (role, Decision.reject) ∉ steps) :
    ofHistory required steps = approved ↔
      required ≠ [] ∧ ∀ role ∈ required, (role, Decision.approve) ∈ steps := by
  refine ⟨fun decided => ⟨?_, exists_approve decided⟩, fun ⟨anybody, all⟩ => ofHistory_eq_approved anybody all nobody⟩
  exact (ofHistory_eq_approved_iff.1 decided).1

/-- There the order of the steps does not matter. -/
theorem ofHistory_perm (nobody : ∀ role ∈ required, (role, Decision.reject) ∉ steps) (perm : others.Perm steps) :
    ofHistory required others = ofHistory required steps := by
  have nobodyElse : ∀ role ∈ required, (role, Decision.reject) ∉ others :=
    fun role needed within => nobody role needed (perm.mem_iff.1 within)
  have alike : ofHistory required others = approved ↔ ofHistory required steps = approved := by
    simp only [ofHistory_of_no_reject nobody, ofHistory_of_no_reject nobodyElse, perm.mem_iff]
  have never {steps : List (String × Decision)} (nobody : ∀ role ∈ required, (role, Decision.reject) ∉ steps) :
      ofHistory required steps ≠ rejected := by
    intro decided
    obtain ⟨role, needed, within⟩ := exists_reject decided
    exact nobody role needed within
  cases one : ofHistory required others with
  | approved => exact (alike.1 one).symm
  | rejected => exact absurd one (never nobodyElse)
  | pending =>
      cases two : ofHistory required steps with
      | pending => rfl
      | approved => exact one.symm.trans (alike.2 two)
      | rejected => exact absurd two (never nobody)

end ApprovalStatus

/-- Whether an action may matter to the status: a required role approves or rejects with it. -/
def Action.counts (required : List String) (action : Action) : Bool :=
  required.contains action.role && action.decision != .requestChanges

namespace ApprovalStatus

variable {required roles : List String} {history others : List Action}

/-! ### Histories of actions -/

/-- Every required role approves in a history. -/
def Covered (required : List String) (history : List Action) : Prop :=
  ∀ role ∈ required, ∃ action ∈ history, action.role = role ∧ action.decision = .approve

/-- At some place of a history a required role rejects, and not all required roles have approved in front of it. -/
def RejectedIn (required : List String) (history : List Action) : Prop :=
  ∃ (place : Nat) (action : Action), history[place]? = some action ∧ action.role ∈ required ∧
    action.decision = .reject ∧ ¬ Covered required (history.take place)

/-- Somebody is required, and in some part at the beginning of a history all required roles approve and none of them
rejects. -/
def ApprovedIn (required : List String) (history : List Action) : Prop :=
  required ≠ [] ∧ ∃ front, front <+: history ∧ Covered required front ∧
    ∀ action ∈ front, action.role ∈ required → action.decision ≠ .reject

theorem mem_steps_iff {role : String} {decision : Decision} :
    (role, decision) ∈ history.map Action.step ↔
      ∃ action ∈ history, action.role = role ∧ action.decision = decision := by
  simp only [List.mem_map, Action.step, Prod.mk.injEq]

theorem covered_iff :
    Covered required history ↔ ∀ role ∈ required, (role, Decision.approve) ∈ history.map Action.step :=
  forall₂_congr fun _ _ => mem_steps_iff.symm

/-- No required role rejects in a history. -/
theorem no_reject_iff :
    (∀ action ∈ history, action.role ∈ required → action.decision ≠ .reject) ↔
      ∀ role ∈ required, (role, Decision.reject) ∉ history.map Action.step := by
  constructor
  · intro nobody role needed within
    obtain ⟨action, member, rfl, rejects⟩ := mem_steps_iff.1 within
    exact nobody action member needed rejects
  · intro nobody action member needed rejects
    exact nobody action.role needed (mem_steps_iff.2 ⟨action, member, rfl, rejects⟩)

theorem ofActions_eq_rejected_iff : ofActions required history = rejected ↔ RejectedIn required history := by
  rw [ofActions, ofHistory_eq_rejected_iff]
  constructor
  · rintro ⟨front, role, back, split, needed, uncovered⟩
    obtain ⟨inFront, rest, rfl, rfl, there⟩ := List.map_eq_append_iff.1 split
    obtain ⟨action, behind, rfl, here, -⟩ := List.map_eq_cons_iff.1 there
    obtain ⟨rfl, rejects⟩ := Prod.mk.inj here
    exact ⟨inFront.length, action, by simp, needed, rejects, by rwa [List.take_left, covered_iff]⟩
  · rintro ⟨place, action, here, needed, rejects, uncovered⟩
    obtain ⟨within, rfl⟩ := List.getElem?_eq_some_iff.1 here
    refine ⟨(history.take place).map Action.step, history[place].role, (history.drop (place + 1)).map Action.step, ?_,
      needed, by rwa [← covered_iff]⟩
    have step : (history[place].role, Decision.reject) = history[place].step := by rw [Action.step, rejects]
    rw [step, ← List.map_cons, ← List.map_append, ← List.drop_eq_getElem_cons within, List.take_append_drop]

theorem ofActions_eq_approved_iff : ofActions required history = approved ↔ ApprovedIn required history := by
  rw [ofActions, ofHistory_eq_approved_iff]
  refine and_congr_right fun _ => ⟨?_, ?_⟩
  · rintro ⟨front, ⟨back, split⟩, all, nobody⟩
    obtain ⟨inFront, behind, rfl, rfl, -⟩ := List.map_eq_append_iff.1 split.symm
    exact ⟨inFront, ⟨behind, rfl⟩, covered_iff.2 all, no_reject_iff.2 nobody⟩
  · rintro ⟨front, part, all, nobody⟩
    exact ⟨front.map Action.step, part.map Action.step, covered_iff.1 all, no_reject_iff.1 nobody⟩

/-- Actions that do not count may be left out. -/
theorem ofActions_filter :
    ofActions required (history.filter (Action.counts required)) = ofActions required history := by
  have replayed (soFar : List String) :
      replay required soFar ((history.filter (Action.counts required)).map Action.step) =
        replay required soFar (history.map Action.step) := by
    induction history generalizing soFar with
    | nil => rfl
    | cons action rest ih =>
        by_cases needed : action.role ∈ required
        · cases decision : action.decision <;>
            simp [Action.counts, Action.step, replay_cons, needed, decision, ih]
        · simp [Action.counts, Action.step, replay_cons, needed, ih]
  exact replayed []

/-- A history is rejected exactly where a required role rejects before all required roles have approved, approved
exactly where somebody is required and all required roles have approved before one of them rejects, and pending
otherwise. So nothing that follows a decision changes it, nothing changes where actions that do not count come or go,
where the required roles are ordered otherwise or repeated, or where a history in which no required role rejects is
ordered otherwise. -/
theorem ofActions_decided_first (required : List String) (history : List Action) :
    (ofActions required history = rejected ↔ RejectedIn required history) ∧
    (ofActions required history = approved ↔ ApprovedIn required history) ∧
    (ofActions required history = pending ↔ ¬ RejectedIn required history ∧ ¬ ApprovedIn required history) ∧
    (∀ more : List Action, (ofActions required history).isTerminal = true →
      ofActions required (history ++ more) = ofActions required history) ∧
    (∀ others : List Action, others.filter (Action.counts required) = history.filter (Action.counts required) →
      ofActions required others = ofActions required history) ∧
    (∀ roles : List String, (∀ role, role ∈ roles ↔ role ∈ required) →
      ofActions roles history = ofActions required history) ∧
    (∀ others : List Action, (∀ action ∈ history, action.role ∈ required → action.decision ≠ .reject) →
      others.Perm history → ofActions required others = ofActions required history) := by
  refine ⟨ofActions_eq_rejected_iff, ofActions_eq_approved_iff, ?_, fun more => ofActions_append_of_terminal,
    fun others same => ?_, fun roles same => ofHistory_congr same, fun others nobody perm => ?_⟩
  · rw [← ofActions_eq_rejected_iff, ← ofActions_eq_approved_iff]
    cases ofActions required history <;> simp
  · rw [← ofActions_filter, same, ofActions_filter]
  · exact ofHistory_perm (no_reject_iff.1 nobody) (perm.map Action.step)

end ApprovalStatus

namespace Trial

/-- A role acts on a request. -/
def acted (role : String) (decision : Decision) (sequence : Int) : Action where
  id := "ACT"
  requestId := "APR-000000000001"
  role
  decision
  comment := none
  sequence
  key := "KEY"
  createdAt := ⟨0, none⟩

/-- Two roles approve, another one rejects, and one of the two has asked for changes before. -/
def mixedHistory : List Action :=
  [acted "CFO" .approve 1, acted "Sales" .reject 2, acted "Hedging" .requestChanges 3, acted "Hedging" .approve 4]

end Trial

namespace ApprovalStatus

/-- The two approvals decide whatever the third role does, a rejection that follows changes nothing, and neither does it
where only the approvals are kept, where the roles are repeated, or where the approvals come the other way round. -/
theorem ofActions_decided_first_of_mixedHistory :
    ofActions ["Hedging", "CFO"] Trial.mixedHistory = approved ∧
    ofActions ["Hedging", "CFO"] (Trial.mixedHistory ++ [Trial.acted "CFO" .reject 5]) = approved ∧
    ofActions ["Hedging", "CFO"] [Trial.acted "CFO" .approve 1, Trial.acted "Hedging" .approve 4] = approved ∧
    ofActions ["CFO", "Hedging", "CFO"] Trial.mixedHistory = approved ∧
    ofActions ["Hedging", "CFO"] Trial.mixedHistory.reverse = approved := by
  obtain ⟨-, -, -, after, counted, named, ordered⟩ := ofActions_decided_first ["Hedging", "CFO"] Trial.mixedHistory
  have decided : ofActions ["Hedging", "CFO"] Trial.mixedHistory = approved := by decide
  refine ⟨decided, (after _ (by rw [decided]; rfl)).trans decided, (counted _ (by decide)).trans decided,
    (named _ fun role => ?_).trans decided, (ordered _ (by decide) (List.reverse_perm _)).trans decided⟩
  simp only [List.mem_cons, List.not_mem_nil, or_false]
  tauto

end ApprovalStatus

end Countersign
