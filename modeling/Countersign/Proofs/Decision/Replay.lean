/-
Module: Countersign.Proofs.Decision.Replay
Purpose: What the status that a history amounts to says about the history.
Main exports: ApprovalStatus.exists_approve, ApprovalStatus.exists_reject, ApprovalStatus.exists_missing,
  ApprovalStatus.ofHistory_eq_approved, ApprovalStatus.approvedIn,
  ApprovalStatus.ofHistory_append_of_terminal, ApprovalStatus.exists_deciding,
  ApprovalStatus.exists_deciding_action
-/
import Countersign.Approval.Request
import Mathlib.Data.List.Induction

namespace Countersign.ApprovalStatus

/-!
A history is decided by one step: the first rejection by a required role, or the approval that was the last one
missing. What stands behind that step does not count, and what stands in front of it counts only when it decides
already.
-/

variable {required soFar : List String} {front back steps : List (String × Decision)}

theorem covers_iff {approved : List String} :
    covers approved required = true ↔ ∀ role ∈ required, role ∈ approved := by
  simp [covers]

theorem replay_cons (role : String) (decision : Decision) :
    replay required soFar ((role, decision) :: steps) =
      if required.contains role then
        match decision with
        | .reject => rejected
        | .approve =>
            if covers (role :: soFar) required then approved
            else replay required (role :: soFar) steps
        | .requestChanges => replay required soFar steps
      else replay required soFar steps := by
  cases decision <;> rfl

/-! ### What a decided history has -/

/-- Where a history amounts to an approval, every required role approved. -/
theorem exists_approve_of_replay (decided : replay required soFar steps = approved) :
    ∀ role ∈ required, role ∈ soFar ∨ (role, Decision.approve) ∈ steps := by
  induction steps generalizing soFar with
  | nil => cases decided
  | cons step rest ih =>
      obtain ⟨role, decision⟩ := step
      have passed (later : replay required soFar rest = approved) :
          ∀ other ∈ required, other ∈ soFar ∨ (other, Decision.approve) ∈ (role, decision) :: rest :=
        fun other needed => (ih later other needed).imp_right (List.mem_cons_of_mem _)
      rw [replay_cons] at decided
      split at decided
      · cases decision with
        | reject => cases decided
        | requestChanges => exact passed decided
        | approve =>
            intro other needed
            by_cases same : other = role
            · exact Or.inr (by simp [same])
            · have before : other ∈ role :: soFar ∨ (other, Decision.approve) ∈ rest := by
                dsimp only at decided
                split at decided
                · next all => exact Or.inl (covers_iff.1 all other needed)
                · exact ih decided other needed
              rcases before with early | late
              · exact Or.inl ((List.mem_cons.mp early).resolve_left same)
              · exact Or.inr (List.mem_cons_of_mem _ late)
      · exact passed decided

/-- Where a history amounts to a rejection, a required role rejected. -/
theorem exists_reject_of_replay (decided : replay required soFar steps = rejected) :
    ∃ role ∈ required, (role, Decision.reject) ∈ steps := by
  induction steps generalizing soFar with
  | nil => cases decided
  | cons step rest ih =>
      obtain ⟨role, decision⟩ := step
      have passed {known : List String} (later : replay required known rest = rejected) :
          ∃ other ∈ required, (other, Decision.reject) ∈ (role, decision) :: rest := by
        obtain ⟨other, needed, within⟩ := ih later
        exact ⟨other, needed, List.mem_cons_of_mem _ within⟩
      rw [replay_cons] at decided
      split at decided
      · next needed =>
          cases decision with
          | reject => exact ⟨role, by simpa using needed, by simp⟩
          | requestChanges => exact passed decided
          | approve =>
              dsimp only at decided
              split at decided
              · cases decided
              · exact passed decided
      · exact passed decided

theorem exists_approve (decided : ofHistory required steps = approved) :
    ∀ role ∈ required, (role, Decision.approve) ∈ steps := by
  intro role needed
  exact (exists_approve_of_replay decided role needed).resolve_left (by simp)

theorem exists_reject (decided : ofHistory required steps = rejected) :
    ∃ role ∈ required, (role, Decision.reject) ∈ steps := exists_reject_of_replay decided

/-- Where a history amounts to nothing yet, a required role has not approved, unless nobody is required. -/
theorem exists_missing_of_replay (waits : replay required soFar steps = pending)
    (needed : ¬ covers soFar required = true) :
    ∃ role ∈ required, role ∉ soFar ∧ (role, Decision.approve) ∉ steps := by
  -- The induction is on the steps, for any approvals so far: an approval that does not complete them joins those that
  -- the rest is replayed with.
  induction steps generalizing soFar with
  | nil =>
      rw [covers_iff, not_forall] at needed
      obtain ⟨role, missing⟩ := needed
      rw [Classical.not_imp] at missing
      exact ⟨role, missing.1, missing.2, by simp⟩
  | cons step rest ih =>
      obtain ⟨role, decision⟩ := step
      rw [replay_cons] at waits
      have passed (later : replay required soFar rest = pending)
          (skipped : (role, decision) ≠ (role, .approve) ∨ role ∉ required) :
          ∃ other ∈ required, other ∉ soFar ∧ (other, Decision.approve) ∉ (role, decision) :: rest := by
        obtain ⟨other, wanted, new, absent⟩ := ih later needed
        refine ⟨other, wanted, new, fun within => ?_⟩
        rcases List.mem_cons.1 within with same | behind
        · obtain ⟨rfl, rfl⟩ := Prod.mk.inj same
          exact skipped.elim (fun different => different rfl) fun unknown => unknown wanted
        · exact absent behind
      split at waits
      · cases decision with
        | reject => cases waits
        | requestChanges => exact passed waits (Or.inl (by simp))
        | approve =>
            dsimp only at waits
            split at waits
            · cases waits
            · next uncovered =>
                obtain ⟨other, wanted, new, absent⟩ := ih waits uncovered
                rw [List.mem_cons, not_or] at new
                refine ⟨other, wanted, new.2, fun within => ?_⟩
                rcases List.mem_cons.1 within with same | behind
                · exact new.1 (congrArg Prod.fst same)
                · exact absent behind
      · next unknown => exact passed waits (Or.inr (by simpa using unknown))

theorem exists_missing (waits : ofHistory required steps = pending) (some : required ≠ []) :
    ∃ role ∈ required, (role, Decision.approve) ∉ steps := by
  have uncovered : ¬ covers [] required = true := by
    rw [covers_iff]
    intro all
    exact some (List.eq_nil_iff_forall_not_mem.2 fun role within => by cases all role within)
  obtain ⟨role, needed, -, absent⟩ := exists_missing_of_replay waits uncovered
  exact ⟨role, needed, absent⟩

/-- Where every required role approved and none rejected, a history amounts to an approval. -/
theorem ofHistory_eq_approved (some : required ≠ []) (all : ∀ role ∈ required, (role, Decision.approve) ∈ steps)
    (nobody : ∀ role ∈ required, (role, Decision.reject) ∉ steps) : ofHistory required steps = approved := by
  cases standing : ofHistory required steps with
  | approved => rfl
  | pending =>
      obtain ⟨role, needed, absent⟩ := exists_missing standing some
      exact absurd (all role needed) absent
  | rejected =>
      obtain ⟨role, needed, within⟩ := exists_reject standing
      exact absurd within (nobody role needed)

/-! ### The step that decides -/

/-- The required roles that approved in a history, the latest first. -/
def approvedIn (required : List String) (steps : List (String × Decision)) : List String :=
  ((steps.filter fun step => required.contains step.1 && step.2 == .approve).map Prod.fst).reverse

theorem mem_approvedIn {role : String} :
    role ∈ approvedIn required steps ↔ role ∈ required ∧ (role, Decision.approve) ∈ steps := by
  simp only [approvedIn, List.mem_reverse, List.mem_map, List.mem_filter, List.contains_iff_mem,
    Bool.and_eq_true, beq_iff_eq]
  constructor
  · rintro ⟨⟨known, decision⟩, ⟨within, needed, rfl⟩, rfl⟩
    exact ⟨needed, within⟩
  · rintro ⟨needed, within⟩
    exact ⟨(role, .approve), ⟨within, needed, rfl⟩, rfl⟩

/-- What stands behind a decision does not count. -/
theorem replay_append_of_terminal (decided : (replay required soFar front).isTerminal = true) :
    replay required soFar (front ++ back) = replay required soFar front := by
  induction front generalizing soFar with
  | nil => cases decided
  | cons step rest ih =>
      obtain ⟨role, decision⟩ := step
      rw [List.cons_append, replay_cons, replay_cons]
      rw [replay_cons] at decided
      split
      · next needed =>
          rw [if_pos needed] at decided
          cases decision with
          | reject => rfl
          | requestChanges => exact ih decided
          | approve =>
              dsimp only at decided ⊢
              split
              · rfl
              · next missing =>
                  rw [if_neg missing] at decided
                  exact ih decided
      · next other =>
          rw [if_neg other] at decided
          exact ih decided

/-- Where a history is not decided yet, it goes on with the approvals that it has. -/
theorem replay_append_of_pending (waits : replay required soFar front = pending) :
    replay required soFar (front ++ back) = replay required (approvedIn required front ++ soFar) back := by
  -- The approvals of the front are put in front of those so far, the latest first, as replaying does.
  induction front generalizing soFar with
  | nil => rfl
  | cons step rest ih =>
      obtain ⟨role, decision⟩ := step
      rw [List.cons_append, replay_cons]
      rw [replay_cons] at waits
      split
      · next needed =>
          rw [if_pos needed] at waits
          cases decision with
          | reject => cases waits
          | requestChanges =>
              rw [ih waits]
              simp [approvedIn]
          | approve =>
              dsimp only at waits ⊢
              split
              · next all =>
                  rw [if_pos all] at waits
                  cases waits
              · next missing =>
                  rw [if_neg missing] at waits
                  rw [ih waits]
                  have more : approvedIn required ((role, .approve) :: rest) =
                      approvedIn required rest ++ [role] := by
                    have known : role ∈ required := by simpa using needed
                    simp [approvedIn, known]
                  rw [more, List.append_assoc]
                  rfl
      · next other =>
          rw [if_neg other] at waits
          rw [ih waits]
          have unknown : role ∉ required := by simpa using other
          simp [approvedIn, unknown]

theorem ofHistory_append_of_terminal (decided : (ofHistory required front).isTerminal = true) :
    ofHistory required (front ++ back) = ofHistory required front := replay_append_of_terminal decided

theorem ofHistory_append_of_pending (waits : ofHistory required front = pending) :
    ofHistory required (front ++ back) = replay required (approvedIn required front) back := by
  rw [ofHistory, replay_append_of_pending waits, List.append_nil]

/-- A step that decides also does so where more roles have approved. -/
theorem replay_of_decides {step : String × Decision} {more : List String}
    (decides : (replay required soFar [step]).isTerminal = true) (within : soFar ⊆ more) :
    replay required more (step :: back) = replay required soFar [step] := by
  obtain ⟨role, decision⟩ := step
  rw [replay_cons, replay_cons]
  rw [replay_cons] at decides
  split
  · next needed =>
      rw [if_pos needed] at decides
      cases decision with
      | reject => rfl
      | requestChanges => cases decides
      | approve =>
          dsimp only at decides ⊢
          split at decides
          · next all =>
              have still : covers (role :: more) required = true :=
                covers_iff.2 fun other wanted =>
                  List.cons_subset_cons role within (covers_iff.1 all other wanted)
              rw [if_pos still, if_pos all]
          · cases decides
  · next other =>
      rw [if_neg other] at decides
      cases decides

/-- A step of a history that decides it, and would decide the same behind any history that has what stands
in front of it, unless that one is decided already. -/
theorem exists_deciding (decided : (ofHistory required steps).isTerminal = true) :
    ∃ front step back, steps = front ++ step :: back ∧ ofHistory required front = pending ∧
      ∀ other rest, front ⊆ other → ofHistory required other = pending →
        ofHistory required (other ++ step :: rest) = ofHistory required steps := by
  induction steps using List.reverseRecOn with
  | nil => cases decided
  | append_singleton init last ih =>
      by_cases early : (ofHistory required init).isTerminal = true
      · obtain ⟨front, step, back, rfl, waits, decides⟩ := ih early
        refine ⟨front, step, back ++ [last], by simp, waits, fun other rest within undecided => ?_⟩
        rw [decides other rest within undecided, ofHistory_append_of_terminal early]
      · have waits := eq_pending_of_not_terminal early
        refine ⟨init, last, [], rfl, waits, fun other rest within undecided => ?_⟩
        rw [ofHistory_append_of_pending waits] at decided ⊢
        rw [ofHistory_append_of_pending undecided]
        apply replay_of_decides decided
        intro role known
        obtain ⟨needed, approves⟩ := mem_approvedIn.1 known
        exact mem_approvedIn.2 ⟨needed, within approves⟩

/-! ### Histories of actions -/

section Actions

variable {history inFront behind : List Action}

theorem ofActions_append_of_terminal (decided : (ofActions required inFront).isTerminal = true) :
    ofActions required (inFront ++ behind) = ofActions required inFront := by
  rw [ofActions, List.map_append]
  exact ofHistory_append_of_terminal decided

/-- The action of a decided history that decides it. -/
theorem exists_deciding_action (decided : (ofActions required history).isTerminal = true) :
    ∃ inFront action behind, history = inFront ++ action :: behind ∧
      ofActions required inFront = pending ∧
      ∀ other rest, inFront ⊆ other → ofActions required other = pending →
        ofActions required (other ++ action :: rest) = ofActions required history := by
  obtain ⟨front, step, back, same, waits, decides⟩ := exists_deciding decided
  obtain ⟨inFront, others, rfl, rfl, there⟩ := List.map_eq_append_iff.1 same
  obtain ⟨action, behind, rfl, rfl, rfl⟩ := List.map_eq_cons_iff.1 there
  refine ⟨inFront, action, behind, rfl, waits, fun other rest within undecided => ?_⟩
  have steps := decides (other.map Action.step) (rest.map Action.step)
    (List.map_subset Action.step within) undecided
  rw [ofActions, List.map_append, List.map_cons]
  exact steps

end Actions

end Countersign.ApprovalStatus
