/-
Module: Countersign.Proofs.Decision.Drift
Purpose: When the status of a decided request drifts from what its trail amounts to.
Main exports: World.Decides, World.Chronicle, Ledger.derived_eq_iff, World.derived_iff
-/
import Countersign.Proofs.Decision.Fencing
import Countersign.Proofs.Decision.Replay

namespace Countersign

open Service

/-!
When a request is decided in a nested run, its status is what its trail amounts to. But a submission that lost the
lease before may still record its action afterwards, in a place that was given out already, so that it is read in
front of the action that decided. The status stays, and the trail amounts to something else as soon as the actions
in front of the deciding one do.
-/

namespace Ledger

variable {ledger after : Ledger} {id : String} {required : List String}

/-- A decided history amounts to the same later on, unless what is then read in front of the action that decided it
amounts to another decision. -/
theorem derived_eq_iff (sound : after.Sound) (longer : ledger.actions <+: after.actions)
    (decided : (ApprovalStatus.ofActions required (ledger.history id)).isTerminal = true) :
    ∃ early action late front back,
      ledger.history id = early ++ action :: late ∧ ApprovalStatus.ofActions required early = .pending ∧
      ApprovalStatus.ofActions required (early ++ [action]) =
        ApprovalStatus.ofActions required (ledger.history id) ∧
      after.history id = front ++ action :: back ∧
      (∀ other, other ∈ early ↔ other ∈ front ∧ other ∈ ledger.history id) ∧
      (ApprovalStatus.ofActions required (after.history id) =
          ApprovalStatus.ofActions required (ledger.history id) ↔
        ApprovalStatus.ofActions required front = .pending ∨
          ApprovalStatus.ofActions required front =
            ApprovalStatus.ofActions required (ledger.history id)) := by
  obtain ⟨early, action, late, was, waits, decides⟩ := ApprovalStatus.exists_deciding_action decided
  have part := history_sublist longer id
  have nodup := nodup_history sound id
  rw [was] at part
  obtain ⟨front, back, is⟩ := List.append_of_mem (part.subset (by simp : action ∈ early ++ action :: late))
  rw [is] at part nodup
  -- Everything that was read in front of the deciding action still stands in front of it.
  obtain ⟨inFront, inBack⟩ := sublist_split nodup part
  have first := decides early [] (List.Subset.refl _) waits
  refine ⟨early, action, late, front, back, was, waits, first, is, fun other => ?_, ?_⟩
  · constructor
    · intro within
      rw [was]
      exact ⟨inFront.subset within, List.mem_append_left _ within⟩
    · rintro ⟨within, known⟩
      rw [was] at known
      rcases List.mem_append.mp known with before | behind
      · exact before
      · have inBehind : other ∈ action :: back := by
          rcases List.mem_cons.mp behind with rfl | after
          · simp
          · exact List.mem_cons_of_mem _ (inBack.subset after)
        exact absurd rfl ((List.nodup_append.1 nodup).2.2 other within other inBehind)
  · rw [is]
    by_cases overruled : (ApprovalStatus.ofActions required front).isTerminal = true
    · rw [ApprovalStatus.ofActions_append_of_terminal overruled]
      refine ⟨Or.inr, fun same => same.resolve_left fun pending => ?_⟩
      rw [pending] at overruled
      cases overruled
    · have pending := ApprovalStatus.eq_pending_of_not_terminal overruled
      exact ⟨fun _ => Or.inl pending, fun _ => decides front back inFront.subset pending⟩

end Ledger

namespace World

variable {environment : Session.Environment} {w w' : World} {ledger after : Ledger} {event : Event}

/-- An event of a nested run that decided a request. -/
structure Decides (environment : Session.Environment) (w w' : World) (request : Request) : Prop where
  reached : Runs environment inTurn start w
  event : ∃ event, w.inTurn event = true ∧ w.take environment event = some w'
  pending : ∃ before, w.Stores before ∧ before.id = request.id ∧ before.status = .pending
  stored : w'.Stores request

theorem Decides.runs {request : Request} (decides : w.Decides environment w' request) :
    Runs environment inTurn start w' := by
  obtain ⟨event, turn, taken⟩ := decides.event
  exact .next decides.reached event turn taken

/-- What is known of the decisions in every world that a nested run reaches. -/
structure Chronicle (environment : Session.Environment) (w : World) (ledger : Ledger) : Prop where
  reached : Runs environment inTurn start w
  fenced : w.Fenced ledger
  decided : ∀ holding ∈ ledger.requests, holding.request.status.isTerminal = true →
    ∃ w₀ w₁ : World, w₀.Decides environment w₁ holding.request ∧ Runs environment inTurn w₁ w ∧
      ApprovalStatus.ofActions holding.request.approvers (w₁.history holding.request.id) =
        holding.request.status

namespace Chronicle

theorem start : Chronicle environment World.start {} where
  reached := .stay
  fenced := .start
  decided holding member := by cases member

theorem next (chronicle : Chronicle environment w ledger) (holds : w.Holds ledger)
    (turn : w.inTurn event = true) (taken : w.take environment event = some w')
    (changes : w.Changes ledger event w' after) (later : w'.Holds after) :
    Chronicle environment w' after := by
  have step : Runs environment inTurn w w' := .next .stay event turn taken
  refine ⟨chronicle.reached.trans step, changes.fenced holds turn chronicle.fenced, ?_⟩
  intro holding member terminal
  rcases changes.decision holds.sound chronicle.fenced member terminal with
    ⟨before, known, same⟩ | ⟨⟨before, known, sameId, pending⟩, amounts⟩
  · rw [← same] at terminal ⊢
    obtain ⟨w₀, w₁, decides, since, amounts⟩ := chronicle.decided before known terminal
    exact ⟨w₀, w₁, decides, since.trans step, amounts⟩
  · have decides : w.Decides environment w' holding.request :=
      ⟨chronicle.reached, ⟨event, turn, taken⟩,
        ⟨before.request, holds.stores_iff.2 ⟨before, known, rfl⟩, sameId, pending⟩,
        later.stores_iff.2 ⟨holding, member, rfl⟩⟩
    refine ⟨w, w', decides, .stay, ?_⟩
    rw [later.history_eq]
    exact amounts

end Chronicle

/-- In every world that a nested run reaches, a decided request stands as its trail did amount to when it was
decided. One action of that trail decided it, being the first behind which the trail amounts to a decision. The
trail still amounts to the status unless what is now read in front of that action amounts to the other one. Of
the actions that were recorded by then, those in front of it amount to none, so it is actions of submissions that
had lost the lease that make a status drift. -/
theorem derived_iff (reached : Runs environment inTurn start w) {request : Request}
    (stored : w.Stores request) (terminal : request.status.isTerminal = true) :
    ∃ w₀ w₁ : World, w₀.Decides environment w₁ request ∧ Runs environment inTurn w₁ w ∧
      ApprovalStatus.ofActions request.approvers (w₁.history request.id) = request.status ∧
      ∃ early action late front back,
        w₁.history request.id = early ++ action :: late ∧
        ApprovalStatus.ofActions request.approvers early = .pending ∧
        ApprovalStatus.ofActions request.approvers (early ++ [action]) = request.status ∧
        w.history request.id = front ++ action :: back ∧
        (∀ other, other ∈ early ↔ other ∈ front ∧ other ∈ w₁.history request.id) ∧
        (ApprovalStatus.ofActions request.approvers (w.history request.id) = request.status ↔
          ApprovalStatus.ofActions request.approvers front = .pending ∨
            ApprovalStatus.ofActions request.approvers front = request.status) := by
  obtain ⟨ledger, holds, -, chronicle⟩ := reached.preserves (P := Chronicle environment)
    (fun holds chronicle turn taken changes later => chronicle.next holds turn taken changes later)
    holds_start .start
  obtain ⟨holding, member, rfl⟩ := holds.stores_iff.1 stored
  obtain ⟨w₀, w₁, decides, since, amounts⟩ := chronicle.decided holding member terminal
  refine ⟨w₀, w₁, decides, since, amounts, ?_⟩
  obtain ⟨then_, there, -⟩ := decides.runs.holds holds_start
  obtain ⟨now_, here, evolves⟩ := since.holds there
  rw [there.history_eq] at amounts ⊢
  rw [here.history_eq]
  rw [← amounts] at terminal ⊢
  exact Ledger.derived_eq_iff here.sound evolves.actions terminal

/-- A request that was approved, and whose trail amounts to a rejection since a submission that had lost the lease
recorded its action: what stands in front of the approval amounts to a rejection. -/
theorem derived_iff_after_lost_lease :
    ∃ w request, Runs Trial.environment inTurn start w ∧ w.atRest = true ∧ w.Stores request ∧
      request.status = .approved ∧
      ApprovalStatus.ofActions request.approvers (w.history request.id) = .rejected ∧
      ∃ w₀ w₁ : World, w₀.Decides Trial.environment w₁ request ∧
        Runs Trial.environment inTurn w₁ w ∧
        ApprovalStatus.ofActions request.approvers (w₁.history request.id) = .approved ∧
        ∃ front action back, action ∈ w₁.history request.id ∧
          w.history request.id = front ++ action :: back ∧
          ApprovalStatus.ofActions request.approvers front = .rejected := by
  obtain ⟨w, reached, found⟩ := Runs.exists_of_play
    (p := fun w => w.atRest && w.storesAny fun request => request.status == .approved &&
      ApprovalStatus.ofActions request.approvers ((w.trail request.id).insertionSort
        fun first second => first.noLaterThan second = true) == .rejected)
    (show (start.play Trial.environment inTurn Trial.overtaken).any _ = true by decide +kernel)
  obtain ⟨rest, keeps⟩ := Bool.and_eq_true_iff.1 found
  obtain ⟨request, stored, known⟩ := exists_of_storesAny keeps
  obtain ⟨approved, drifted⟩ := Bool.and_eq_true_iff.1 known
  have status : request.status = .approved := beq_iff_eq.1 approved
  obtain ⟨ledger, holds, -⟩ := reached.holds holds_start
  have derived : ApprovalStatus.ofActions request.approvers (w.history request.id) = .rejected := by
    rw [holds.history_eq_insertionSort]
    exact beq_iff_eq.1 drifted
  obtain ⟨w₀, w₁, decides, since, amounts, early, action, late, front, back, was, -, -, is, -, same⟩ :=
    derived_iff reached stored (by rw [status]; rfl)
  rw [status] at amounts same
  rw [derived] at same
  refine ⟨w, request, reached, rest, stored, status, derived, w₀, w₁, decides, since, amounts, front,
    action, back, by rw [was]; simp, is, ?_⟩
  cases overruled : ApprovalStatus.ofActions request.approvers front with
  | rejected => rfl
  | pending => exact absurd (same.2 (Or.inl overruled)) (by decide)
  | approved => exact absurd (same.2 (Or.inr overruled)) (by decide)

end World

end Countersign
