/-
Module: Countersign.Proofs.Decision.Openings
Purpose: Requests on which nothing was done yet, as they are when a command has just opened them.
Main exports: World.Fresh, World.Fresh.inStep, World.Opens.inStep, World.Fresh.of_opens
-/
import Countersign.Proofs.Decision.Backing
import Countersign.Proofs.World.Requests

namespace Countersign.World

/-!
A request that a command opens is pending, in its first version, and in step with a trail that is empty. Nobody
holds the lease on it, and whoever was refused on its id before has come to an end.
-/

variable {environment : Session.Environment} {order : Order} {w w' w₀ : World} {ledger after : Ledger}
  {request : Request} {step : Session.Step}

/-- A pending request on which nothing was done yet, and no submission is under way. -/
structure Fresh (w : World) (request : Request) : Prop where
  stored : w.Stores request
  pending : request.status = .pending
  version : request.version = 1
  undecided : request.decidedAt = none
  unused : w.history request.id = []
  quiet : ∀ call ∈ w.calls, call.isOn request.id = true → call.isDone = true

/-- A request on which nothing was done yet is in step with its trail. -/
theorem Fresh.inStep (fresh : w.Fresh request) (holds : w.Holds ledger) :
    ∃ holding, holding.request = request ∧ ledger.InStep holding [] none := by
  obtain ⟨holding, member, rfl⟩ := holds.stores_iff.1 fresh.stored
  have unused := ledger.history_perm holding.request.id
  rw [← holds.history_eq, fresh.unused] at unused
  exact ⟨holding, rfl, Ledger.inStep_fresh member unused.symm.eq_nil fresh.pending fresh.version fresh.undecided⟩

/-- No submission on a fresh request does anything any more. -/
theorem Fresh.quiet_calls (fresh : w.Fresh request) : w.Quiet request.id w.calls.length :=
  ⟨Nat.le_refl _, fun here _ about => fresh.quiet _ (List.mem_of_getElem? here) about⟩

/-- The submissions that are yet to be made. -/
theorem callsOn_length (w : World) (id : String) : w.callsOn id w.calls.length = [] := by
  rw [callsOn, List.drop_length, List.filter_nil]

/-- A request that was just opened is in step with its trail, and nobody holds the lease on it. -/
theorem Opens.inStep (opens : w.Opens environment step w' request) (holds : w.Holds ledger)
    (changes : w.Changes ledger (.command step) w' after) (later : w'.Holds after) :
    ∃ holding, holding.request = request ∧ holding.lease = none ∧ after.InStep holding [] none := by
  obtain ⟨holding, member, rfl⟩ := later.stores_iff.1 opens.stored
  have new : holding ∉ ledger.requests := fun known =>
    opens.fresh holding.request (holds.stores_iff.2 ⟨holding, known, rfl⟩) rfl
  cases changes with
  | commanded commanded down few =>
      cases commanded with
      | opened request admits =>
          obtain rfl := List.mem_singleton.1 ((List.mem_append.1 member).resolve_left new)
          exact ⟨_, rfl, rfl, Ledger.inStep_fresh member (holds.linked.trailOf_eq_nil admits.freshId) admits.pending
            admits.version admits.undecided⟩
      | _ => exact absurd member new

/-- A request that was just opened is fresh, unless somebody is still trying for it. -/
theorem Fresh.of_opens (opens : w.Opens environment step w' request) (reached : Runs environment order start w)
    (quiet : ∀ call ∈ w'.calls, call.isOn request.id = true → call.isDone = true) : w'.Fresh request := by
  obtain ⟨ledger, holds, -⟩ := reached.holds holds_start
  obtain ⟨after, later, changes⟩ := holds.take opens.command
  obtain ⟨holding, rfl, -, inStep⟩ := opens.inStep holds changes later
  refine ⟨opens.stored, opens.pending, inStep.version, ?_, ?_, quiet⟩
  · have undecided := inStep.decidedAt
    rw [opens.pending] at undecided
    exact Option.isNone_iff_eq_none.1 (by rw [← Option.not_isSome, undecided]; rfl)
  · rw [later.history_eq, inStep.history_eq]
    rfl

/-! ### A request that is opened in a trial -/

/-- Whether the last event of an opening is a command that opens the first request of all, which is as it was asked
for, and what happens then leads to a world that passes a test. -/
def opensThen (order : Order) (roles : List String) (asked : Request → Bool) (events : List Event)
    (test : World → Bool) (w₀ : World) : Bool :=
  match (Trial.opening roles).getLast? with
  | some (.command step) =>
      (w₀.state.store.requests.isEmpty && w₀.calls.isEmpty) &&
        (w₀.take Trial.environment (.command step)).any fun w₁ =>
          (!w₁.state.down && w₁.storesAny fun request => request.status == .pending && asked request) &&
            (w₁.play Trial.environment order events).any test
  | _ => false

theorem exists_of_opensThen (order : Order) (roles : List String) (asked : Request → Bool) (events : List Event)
    (test : World → Bool)
    (played : (start.play Trial.environment anyOrder (Trial.opening roles).dropLast).any
      (opensThen order roles asked events test) = true) :
    ∃ w₀ step w₁ request w, Runs Trial.environment anyOrder start w₀ ∧
      w₀.Opens Trial.environment step w₁ request ∧ w₁.state.down = false ∧ w₁.calls = [] ∧
      asked request = true ∧ Runs Trial.environment order w₁ w ∧ test w = true := by
  obtain ⟨w₀, reached, found⟩ := Runs.exists_of_play played
  unfold opensThen at found
  split at found
  · next step _ =>
      obtain ⟨nothing, found⟩ := Bool.and_eq_true_iff.1 found
      obtain ⟨unopened, unasked⟩ := Bool.and_eq_true_iff.1 nothing
      obtain ⟨w₁, taken, found⟩ := (Option.any_eq_true _ _).1 found
      obtain ⟨opened, played⟩ := Bool.and_eq_true_iff.1 found
      obtain ⟨up, keeps⟩ := Bool.and_eq_true_iff.1 opened
      obtain ⟨request, stored, known⟩ := exists_of_storesAny keeps
      obtain ⟨pending, asks⟩ := Bool.and_eq_true_iff.1 known
      obtain ⟨w, runs, passes⟩ := Runs.exists_of_play played
      have same : w₁.calls = w₀.calls := by
        cases becomes_of_take taken
        rfl
      refine ⟨w₀, step, w₁, request, w, reached, ⟨taken, ?_, stored, beq_iff_eq.1 pending⟩, by simpa using up,
        same.trans (List.isEmpty_iff.1 unasked), asks, runs, passes⟩
      rintro other ⟨document, member, -⟩
      rw [List.isEmpty_iff.1 unopened] at member
      cases member
  · cases found

end Countersign.World
