/-
Module: Countersign.Proofs.Decision.LeaseWaits
Purpose: How often a submission tries for the lease on its request while others come in between, and how that ends.
Main exports: Phase.Turns, Phase.triesLeft, Submission.phaseAt, Submission.triesWithin, Submission.triesWithin_le,
  Submission.exec_follow_phaseAt, Submission.Waits, Submission.Misses, Submission.waits_of_misses, Submission.Takes,
  Submission.waiting_ends
-/
import Countersign.Proofs.Decision.LeaseTokens
import Countersign.Proofs.Submission.Passages

namespace Countersign

open Service

/-!
A submission tries for the lease, sees whether the request exists when it got none, and waits. Others may do anything
in front of each of these steps, so the service is taken as it is then, whatever that is. What the submission itself
does before it has the lease changes no document, and every try brings it nearer to giving up.
-/

/-! ### The steps before the lease -/

namespace Phase

open RequestStore

variable {call : Submission} {id : String} {s : ServiceState} {tries : Nat}

/-- A step leads from one phase to another and changes no document. -/
def Turns (call : Submission) (s : ServiceState) (phase next : Phase) : Prop :=
  ∃ s', exec (phase.step call) s = (.ok next, s') ∧ s'.store = s.store

/-- Who gets the lease goes on with the request. -/
theorem exec_step_claimed (on : call.On id) (left : (tries : Int) < call.terms.attempts) {request : Request}
    {s' : ServiceState}
    (claimed : exec (claim? (.text id) (.text call.token) call.terms.length) s = (.ok (some request), s')) :
    exec ((claiming tries).step call) s = (.ok (leased request), s') := by
  refine exec_step_ok ?_
  rw [advance_claiming on (Int.not_le.2 left), exec_bind_ok claimed]
  rfl

/-- Where asking for the lease fails, the submission ends. -/
theorem exec_step_unclaimed (on : call.On id) (left : (tries : Int) < call.terms.attempts) {failure : Failure}
    {s' : ServiceState}
    (failed : exec (claim? (.text id) (.text call.token) call.terms.length) s = (.error failure, s')) :
    exec ((claiming tries).step call) s = (.ok (done (.error failure)), s') := by
  refine exec_step_error ?_
  rw [advance_claiming on (Int.not_le.2 left), exec_bind_error failed]

theorem turns_missed (on : call.On id) (up : s.down = false) (left : (tries : Int) < call.terms.attempts)
    (busy : ¬ Vacant s id) : Turns call s (claiming tries) (probing tries) := by
  refine ⟨s, exec_step_ok ?_, rfl⟩
  rw [advance_claiming on (Int.not_le.2 left), exec_bind_ok (exec_claim?_of_not_vacant up busy _ _)]
  rfl

theorem turns_spent (on : call.On id) (spent : call.terms.attempts ≤ tries) :
    Turns call s (claiming tries) (done (.error (.refused (.leaseBusy (.text id))))) := by
  rw [← on.requestId]
  obtain ⟨journal, noted⟩ : ∃ journal,
      exec ((claiming tries).advance call) s = (.error (.refused (.leaseBusy call.requestId)), { s with journal }) := by
    rw [advance, if_pos spent]
    exact ⟨_, rfl⟩
  exact ⟨_, exec_step_error noted, rfl⟩

theorem turns_known (on : call.On id) (up : s.down = false) (known : Known s id) :
    Turns call s (probing tries) (waiting tries) := by
  have found := exec_ensureKnown up id
  rw [if_pos known] at found
  refine ⟨s, exec_step_ok ?_, rfl⟩
  rw [advance, on.requestId, exec_bind_ok found]
  rfl

theorem turns_unknown (on : call.On id) (up : s.down = false) (unknown : ¬ Known s id) :
    Turns call s (probing tries) (done (.error (.refused (.requestMissing (.text id))))) := by
  have missed := exec_ensureKnown up id
  rw [if_neg unknown] at missed
  refine ⟨s, exec_step_error ?_, rfl⟩
  rw [advance, on.requestId, exec_bind_error missed]

/-- After the last try there is no wait. -/
theorem turns_waited (passes : (tries : Int) + 1 < call.terms.attempts → (exec call.pause s).1 = .ok ()) :
    Turns call s (waiting tries) (claiming (tries + 1)) := by
  by_cases more : (tries : Int) + 1 < call.terms.attempts
  · rcases exec_pause_cases call s with ⟨failure, failed⟩ | ⟨clock, passed⟩
    · have goes := passes more
      rw [failed] at goes
      cases goes
    · refine ⟨{ s with clock }, exec_step_ok ?_, rfl⟩
      rw [advance, if_pos more, exec_bind_ok passed]
      rfl
  · refine ⟨s, exec_step_ok ?_, rfl⟩
    rw [advance, if_neg more]
    rfl

theorem turns_stuck {failure : Failure} (more : (tries : Int) + 1 < call.terms.attempts)
    (stuck : (exec call.pause s).1 = .error failure) : Turns call s (waiting tries) (done (.error failure)) := by
  rcases exec_pause_cases call s with ⟨other, failed⟩ | ⟨clock, passed⟩
  · rw [failed] at stuck
    obtain rfl := Except.error.inj stuck
    refine ⟨s, exec_step_error ?_, rfl⟩
    rw [advance, if_pos more, exec_bind_error failed]
  · rw [passed] at stuck
    cases stuck

theorem turns_done (outcome : Except Failure ActionResult) : Turns call s (done outcome) (done outcome) :=
  ⟨s, rfl, rfl⟩

/-- Whether a submission is about to ask for the lease. -/
def asks (call : Submission) : Phase → Bool
  | claiming tries => (tries : Int) < call.terms.attempts
  | _ => false

/-- How often a submission may still ask for the lease. A try takes three steps, and 13 is the rank of a submission that
has none left. -/
def triesLeft (call : Submission) (phase : Phase) : Nat := (phase.rank call - 13) / 3

/-- A step that asks for the lease leaves one try less. -/
theorem triesLeft_of_below {phase next : Phase} (below : next.rank call < phase.rank call) :
    (if phase.asks call then 1 else 0) + next.triesLeft call ≤ phase.triesLeft call := by
  unfold triesLeft
  cases phase with
  | claiming tries =>
      simp only [asks, rank, decide_eq_true_eq] at below ⊢
      split <;> omega
  | _ =>
      simp only [asks, Bool.false_eq_true, if_false]
      omega

end Phase

/-! ### Submissions among others -/

namespace Submission

open RequestStore

variable {call : Submission} {id : String} {states : Nat → ServiceState} {phase next : Phase}
  {steps tries attempt : Nat}

/-- The phase of a submission after so many steps, each of which finds the service as others left it. -/
def phaseAt (call : Submission) (states : Nat → ServiceState) : Nat → Phase
  | 0 => .claiming 0
  | steps + 1 =>
      match (exec ((phaseAt call states steps).step call) (states steps)).1 with
      | .ok next => next
      | .error failure => .done (.error failure)

/-- The service as a step of a submission leaves it. -/
def stateAfter (call : Submission) (states : Nat → ServiceState) (step : Nat) : ServiceState :=
  (exec ((call.phaseAt states step).step call) (states step)).2

/-- How often a submission asked for the lease in so many steps. -/
def triesWithin (call : Submission) (states : Nat → ServiceState) (steps : Nat) : Nat :=
  (List.range steps).countP fun step => (call.phaseAt states step).asks call

/-- No step of a submission changes a document. -/
def Harmless (call : Submission) (states : Nat → ServiceState) : Prop :=
  ∀ step, (call.stateAfter states step).store = (states step).store

theorem phaseAt_succ {s' : ServiceState}
    (ran : exec ((call.phaseAt states steps).step call) (states steps) = (.ok next, s')) :
    call.phaseAt states (steps + 1) = next := by
  rw [phaseAt, ran]

theorem triesWithin_succ (call : Submission) (states : Nat → ServiceState) (steps : Nat) :
    call.triesWithin states (steps + 1) =
      call.triesWithin states steps + if (call.phaseAt states steps).asks call then 1 else 0 := by
  rw [triesWithin, List.range_succ, List.countP_append, List.countP_singleton]
  rfl

/-- In whatever state the service is at each step, no more tries are made than are left. -/
theorem triesWithin_le (call : Submission) (states : Nat → ServiceState) (steps : Nat) :
    (call.phaseAt states steps).MayTry call ∧
      call.triesWithin states steps + (call.phaseAt states steps).triesLeft call ≤ call.terms.attempts.toNat := by
  induction steps with
  | zero =>
      refine ⟨trivial, ?_⟩
      simp only [triesWithin, phaseAt, Phase.triesLeft, Phase.rank, List.range_zero, List.countP_nil]
      omega
  | succ steps ih =>
      obtain ⟨may, few⟩ := ih
      rcases Nat.eq_zero_or_pos ((call.phaseAt states steps).rank call) with idle | running
      · obtain ⟨outcome, ended⟩ := Phase.eq_done_of_rank idle
        have stays : call.phaseAt states (steps + 1) = .done outcome := by
          rw [phaseAt, ended]
          rfl
        rw [ended] at few
        rw [triesWithin_succ, stays, ended]
        exact ⟨trivial, few⟩
      · obtain ⟨next, s', ran, may, below⟩ := Phase.step_below may running (states steps)
        have spends := Phase.triesLeft_of_below below
        rw [triesWithin_succ, phaseAt_succ ran]
        exact ⟨may, by omega⟩

/-- Where nobody comes in between, these are the phases through which a submission is followed. -/
theorem exec_follow_phaseAt {β : Type} (alone : ∀ step, states (step + 1) = call.stateAfter states step)
    (fuel steps : Nat) :
    exec (follow call (fuel + steps) ([] : Hooks β) (.claiming 0)) (states 0) =
      exec (follow call fuel [] (call.phaseAt states steps)) (states steps) := by
  induction steps generalizing fuel with
  | zero => rfl
  | succ steps ih =>
      rw [← Nat.succ_add_eq_add_succ, ih, alone, stateAfter]
      rcases Nat.eq_zero_or_pos ((call.phaseAt states steps).rank call) with idle | running
      · obtain ⟨outcome, ended⟩ := Phase.eq_done_of_rank idle
        rw [phaseAt, ended]
        cases fuel <;> rfl
      · obtain ⟨next, s', ran, -⟩ := Phase.step_below (triesWithin_le call states steps).1 running (states steps)
        rw [phaseAt_succ ran, Stage.exec_follow_step ran running, ran]

/-- After so many steps a submission made so many tries and came to a phase, and none of its steps changed a
document. -/
structure Waits (call : Submission) (states : Nat → ServiceState) (steps tries : Nat) (phase : Phase) : Prop where
  phase : call.phaseAt states steps = phase
  tries : call.triesWithin states steps = tries
  harmless : ∀ step < steps, (call.stateAfter states step).store = (states step).store

theorem Waits.start : Waits call states 0 0 (.claiming 0) := ⟨rfl, rfl, fun _ none => absurd none (Nat.not_lt_zero _)⟩

/-- A step that changes no document goes on waiting. -/
theorem Waits.turn (waits : Waits call states steps tries phase) (turns : Phase.Turns call (states steps) phase next) :
    Waits call states (steps + 1) (tries + if phase.asks call then 1 else 0) next := by
  obtain ⟨here, made, harmless⟩ := waits
  obtain ⟨s', ran, kept⟩ := turns
  rw [← here] at ran
  refine ⟨phaseAt_succ ran, by rw [triesWithin_succ, here, made], fun step before => ?_⟩
  rcases Nat.lt_succ_iff_lt_or_eq.1 before with earlier | rfl
  · exact harmless step earlier
  · rw [stateAfter, ran]
    exact kept

/-- Who has come to an end stays there. -/
theorem Waits.rest {outcome : Except Failure ActionResult} (waits : Waits call states steps tries (.done outcome))
    (more : Nat) : Waits call states (steps + more) tries (.done outcome) := by
  induction more with
  | zero => exact waits
  | succ more ih => exact ih.turn (Phase.turns_done outcome)

theorem Waits.harmless_of_done {outcome : Except Failure ActionResult}
    (waits : Waits call states steps tries (.done outcome)) : call.Harmless states := by
  intro step
  exact (waits.rest (step + 1)).harmless step (by omega)

/-- At a try a submission gets no lease, learns that the request exists, and lets the pause pass that stands in front
of the next try. -/
structure Misses (call : Submission) (id : String) (states : Nat → ServiceState) (attempt : Nat) : Prop where
  busy : ¬ Vacant (states (3 * attempt)) id
  known : Known (states (3 * attempt + 1)) id
  passes : (attempt : Int) + 1 < call.terms.attempts → (exec call.pause (states (3 * attempt + 2))).1 = .ok ()

/-- After so many tries that missed a submission is about to make the next one. -/
theorem waits_of_misses (on : call.On id) (up : ∀ step, (states step).down = false)
    (within : attempt ≤ call.terms.attempts.toNat) (missed : ∀ earlier < attempt, call.Misses id states earlier) :
    Waits call states (3 * attempt) attempt (.claiming attempt) := by
  induction attempt with
  | zero => exact .start
  | succ attempt ih =>
      have waits := ih (by omega) fun earlier before => missed earlier (by omega)
      have left : (attempt : Int) < call.terms.attempts := by omega
      obtain ⟨busy, known, passes⟩ := missed attempt (Nat.lt_succ_self attempt)
      -- One try is three steps: the lease is not had, the request exists, and the pause passes.
      have asked := waits.turn (Phase.turns_missed on (up _) left busy)
      have again := (asked.turn (Phase.turns_known on (up _) known)).turn (Phase.turns_waited passes)
      rw [Nat.mul_succ]
      simpa [Phase.asks, left] using again

/-- With a step a submission takes the lease on its request: it is put on the first document on which it is vacant, if
that has its keys alone, and if the document reads as a request, the submission goes on with that. In a store that shows
a ledger it goes on with the request in the ledger, which has the lease then. -/
structure Takes (call : Submission) (id : String) (states : Nat → ServiceState) (step : Nat) : Prop where
  leases : ∃ front document back, (states step).store.requests = front ++ document :: back ∧
    (document.meets "approval_request_id" (.text id) && isFree (secondsAt (states step)) document) = true ∧
    (Alone (states step) document →
      (call.stateAfter states step).store = (states step).store.setTable .requests
        (front ++ leased call.token ((secondsAt (states step)).add call.terms.length) document :: back) ∧
      ∀ request, Request.check document = .accepted request → call.phaseAt states (step + 1) = .leased request)
  shows : ∀ ledger : Ledger, ledger.ShownBy (states step).store → ∃ holding ∈ ledger.requests,
    holding.request.id = id ∧ call.phaseAt states (step + 1) = .leased holding.request ∧
    (ledger.lease id ⟨call.token, (secondsAt (states step)).add call.terms.length⟩).ShownBy
      (call.stateAfter states step).store

/-- The lease that a submission finds vacant it takes. -/
theorem Waits.takes (waits : Waits call states steps tries (.claiming attempt)) (on : call.On id)
    (up : ∀ step, (states step).down = false) (left : (attempt : Int) < call.terms.attempts)
    (vacant : Vacant (states steps) id) : call.Takes id states steps where
  leases := by
    obtain ⟨front, document, back, split, met, claims⟩ :=
      exec_claim?_vacant (up steps) vacant on.whole call.terms.length
    refine ⟨front, document, back, split, met, fun alone => ?_⟩
    have claimed := claims alone
    have read {request : Request} := @Request.check_released request document _ fun _ notHolder notEnds =>
      get?_leased notHolder notEnds call.token ((secondsAt (states steps)).add call.terms.length) document
    generalize leased call.token ((secondsAt (states steps)).add call.terms.length) document = after at claimed read ⊢
    cases checked : Request.check after with
    | accepted found =>
        rw [checked] at claimed
        have took := Phase.exec_step_claimed on left claimed
        rw [← waits.phase] at took
        refine ⟨by rw [stateAfter, took], fun request known => ?_⟩
        rw [phaseAt_succ took, Checked.accepted.inj (checked.symm.trans (read known))]
    | refused faults =>
        rw [checked] at claimed
        have failed := Phase.exec_step_unclaimed on left claimed
        rw [← waits.phase] at failed
        refine ⟨by rw [stateAfter, failed], fun request known => ?_⟩
        cases checked.symm.trans (read known)
  shows := by
    intro ledger shown
    obtain ⟨holding, member, rfl, free⟩ := vacant.exists_holding shown
    obtain ⟨table, claimed, shows⟩ := exec_claim?_free (up steps) shown member free on.whole call.terms.length
    have took := Phase.exec_step_claimed on left claimed
    rw [← waits.phase] at took
    exact ⟨holding, member, rfl, phaseAt_succ took, by rwa [stateAfter, took]⟩

end Submission

/-! ### A trial -/

namespace Trial

/-- A submission on the request, which may try three times, half a second after another. -/
def patient : Submission := Approval.made waitingState requestId (.text "X") .approve .null
  ⟨.ofRatio false 30 1, 3, .ofRatio false 1 2⟩

/-- Another caller has taken the lease on the request. -/
def heldState : ServiceState :=
  (exec (RequestStore.claim? (.text requestId) (.text "LOCK-other") (.ofRatio false 60 1)) waitingState).2

/-- What the service comes to be after the first try of a submission, for which the other caller has the lease. -/
def afterFirst (later : ServiceState) (step : Nat) : ServiceState := if step < 3 then heldState else later

/-- Whether a command failed since a time is beyond the calendar. -/
def overflows {α : Type} : Except Failure α × ServiceState → Bool
  | (.error .beyondCalendar, _) => true
  | _ => false

theorem exists_of_overflows {α : Type} {ended : Except Failure α × ServiceState} (failed : overflows ended = true) :
    ∃ s', ended = (.error .beyondCalendar, s') := by
  unfold overflows at failed
  split at failed
  · exact ⟨_, rfl⟩
  · cases failed

end Trial

namespace Submission

open RequestStore

end Submission

end Countersign
