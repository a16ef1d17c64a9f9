/-
Module: Countersign.Proofs.Submission.Phases
Purpose: What each phase of a submission may do next, in terms of the ledger.
Main exports: Ledger.Carries, Ledger.Reports, Phase.Knows, Phase.canFail, Phase.Fails, Phase.Moves,
  Phase.Counts
-/
import Countersign.Approval.Submission
import Countersign.Proofs.Ledger.Evolution
import Countersign.Proofs.Ledger.Recording

namespace Countersign

open Service

/-!
A submission knows more in each phase: which request it is about, that the request is still the same while its
lease is held, which actions it has read, and what it will report. What a phase may do next is told once, by
one rule for each way in which it may go, and everything about submissions is derived from these rules.
-/

namespace Ledger

/-! ### What a submission knows -/

/-- A request that was read when the lease on it was taken. While the lease is held, it is the request. -/
structure Carries (ledger : Ledger) (id token : String) (request : Request) : Prop where
  about : request.id = id
  origin : ∃ holding ∈ ledger.requests, request.SameOrigin holding.request
  fenced : ∀ holding ∈ ledger.requests, holding.request.id = id → holding.holder? = some token →
    holding.request = request

theorem Carries.stable {ledger after : Ledger} {id token : String} {request : Request}
    (carries : ledger.Carries id token request) (evolves : ledger.Evolves after)
    (spares : Spares token ledger after) : after.Carries id token request := by
  refine ⟨carries.about, ?_, ?_⟩
  · obtain ⟨holding, member, same⟩ := carries.origin
    obtain ⟨later, found, further⟩ := evolves.origins holding member
    exact ⟨later, found, same.trans further⟩
  · intro holding member about held
    exact carries.fenced holding (spares holding member held) about held

/-- What a submission reports: when the status changed, the request is decided as reported. -/
def Reports (ledger : Ledger) (id : String) (outcome : Except Failure ActionResult) : Prop :=
  ∀ result, outcome = .ok result → result.request.id = id ∧
    (result.statusChanged = true → result.request.status.isTerminal = true ∧
      ∃ holding ∈ ledger.requests, holding.request = result.request)

theorem Reports.evolve {ledger after : Ledger} {id : String} {outcome : Except Failure ActionResult}
    (reports : ledger.Reports id outcome) (evolves : ledger.Evolves after) :
    after.Reports id outcome := by
  intro result same
  obtain ⟨about, changed⟩ := reports result same
  refine ⟨about, fun moved => ?_⟩
  obtain ⟨terminal, holding, member, known⟩ := changed moved
  obtain ⟨later, found, further⟩ := evolves.decided holding member (by rw [known]; exact terminal)
  exact ⟨terminal, later, found, further.trans known⟩

theorem Reports.error {ledger : Ledger} {id : String} {failure : Failure} :
    ledger.Reports id (.error failure) := fun _ same => by cases same

end Ledger

namespace Phase

/-- What a submission with a token on a request knows in a phase. -/
def Knows (ledger : Ledger) (id token : String) : Phase → Prop
  | claiming _ => True
  | probing _ => True
  | waiting _ => True
  | leased request => ledger.Carries id token request
  | informed request history => ledger.Carries id token request ∧ ledger.Cites id history
  | restoring request history ticketId time =>
      ledger.Carries id token request ∧ ledger.Cites id history ∧ request.status = .pending ∧
        Submission.derived request history ≠ .pending ∧ ticketId = request.ticketId ∧
        time.leavesCalendar = false
  | spreading request history => ledger.Carries id token request ∧ ledger.Cites id history
  | judging request history => ledger.Carries id token request ∧ ledger.Cites id history
  | recorded request history action =>
      ledger.Carries id token request ∧ ledger.Cites id (history ++ [action]) ∧
        request.status = .pending
  | committing request history action ticketId time =>
      ledger.Carries id token request ∧ ledger.Cites id (history ++ [action]) ∧
        request.status = .pending ∧ ticketId = request.ticketId ∧ time.leavesCalendar = false
  | releasing outcome => ledger.Reports id outcome
  | announcing result => ledger.Reports id (.ok result)
  | done outcome => ledger.Reports id outcome

/-- What is known stays known while nobody else touches the lease. -/
theorem Knows.stable {ledger after : Ledger} {id token : String} {phase : Phase}
    (knows : phase.Knows ledger id token) (evolves : ledger.Evolves after)
    (spares : Ledger.Spares token ledger after) : phase.Knows after id token := by
  cases phase with
  | claiming tries => trivial
  | probing tries => trivial
  | waiting tries => trivial
  | leased request => exact Ledger.Carries.stable knows evolves spares
  | informed request history => exact ⟨knows.1.stable evolves spares, knows.2.evolve evolves⟩
  | restoring request history ticketId time =>
      exact ⟨knows.1.stable evolves spares, knows.2.1.evolve evolves, knows.2.2⟩
  | spreading request history => exact ⟨knows.1.stable evolves spares, knows.2.evolve evolves⟩
  | judging request history => exact ⟨knows.1.stable evolves spares, knows.2.evolve evolves⟩
  | recorded request history action =>
      exact ⟨knows.1.stable evolves spares, knows.2.1.evolve evolves, knows.2.2⟩
  | committing request history action ticketId time =>
      exact ⟨knows.1.stable evolves spares, knows.2.1.evolve evolves, knows.2.2⟩
  | releasing outcome => exact Ledger.Reports.evolve knows evolves
  | announcing result => exact Ledger.Reports.evolve knows evolves
  | done outcome => exact Ledger.Reports.evolve knows evolves

/-- Where a phase goes on when it fails, nothing is reported. -/
theorem Knows.onFailure {ledger : Ledger} {id token : String} {phase : Phase}
    (knows : phase.Knows ledger id token) (failure : Failure) :
    (phase.onFailure failure).Knows ledger id token := by
  cases phase <;> exact Ledger.Reports.error

/-- What is known where the connection breaks. -/
theorem Knows.cutOff {ledger : Ledger} {id token : String} {phase : Phase}
    (knows : phase.Knows ledger id token) : phase.cutOff.Knows ledger id token := by
  cases phase <;> exact Ledger.Reports.error

/-! ### How a phase may fail -/

/-- Whether a phase may fail and leave the ledger as it is. -/
def canFail (down : Bool) : Phase → Bool
  | spreading _ _ => down
  | releasing _ => down
  | announcing _ => down
  | done _ => false
  | _ => true

/-- Why a phase fails and leaves the ledger as it is. -/
inductive Fails (call : Submission) (id : String) (down : Bool) (ledger : Ledger) :
    Phase → Failure → Prop where
  | unreached {phase : Phase} (isDown : down = true) (can : phase.canFail true = true) :
      Fails call id down ledger phase .storeDown
  | spent {tries : Nat} (spent : call.terms.attempts ≤ tries) (failure : Failure) :
      Fails call id down ledger (.claiming tries) failure
  | unknown {tries : Nat} (failure : Failure) : Fails call id down ledger (.probing tries) failure
  | late {tries : Nat} (failure : Failure) : Fails call id down ledger (.waiting tries) failure
  | lostRestoring {request : Request} {history : List Action} {ticketId : String} {time : Moment}
      (failure : Failure) : Fails call id down ledger (.restoring request history ticketId time) failure
  | objected {request : Request} {history : List Action} {refusal : Refusal}
      (objection : call.objection? request history = some refusal) :
      Fails call id down ledger (.judging request history) (.refused refusal)
  | missed {request : Request} {history : List Action} {failure : Failure} (number : Nat)
      (fine : call.objection? request history = none)
      (fresh : ∀ action ∈ ledger.actions, action.id ≠ idText "ACT" number)
      (misses : Trail.Misses ledger down id call.role call.decision call.comment
        (history.length + 1 : Nat) number failure) :
      Fails call id down ledger (.judging request history) failure
  | lost {request : Request} {history : List Action} {action : Action} {ticketId : String} {time : Moment}
      (other : ∀ holding ∈ ledger.requests, holding.request.id = id →
        holding.holder? ≠ some call.token) :
      Fails call id down ledger (.committing request history action ticketId time)
        (.refused (.leaseLost (.text id)))
  | keyTaken {request : Request} {history : List Action} {action : Action} {ticketId : String}
      {time : Moment} {holding other : Holding} (member : holding ∈ ledger.requests)
      (same : holding.request.id = id) (within : other ∈ ledger.requests) (different : other ≠ holding)
      (taken : other.key =
        (holding.moved (Submission.derived request (history ++ [action])) time true).key) :
      Fails call id down ledger (.committing request history action ticketId time) (.store .keyTaken)

theorem Fails.canFail {call : Submission} {id : String} {down : Bool} {ledger : Ledger} {phase : Phase}
    {failure : Failure} (fails : Fails call id down ledger phase failure) : phase.canFail down = true := by
  cases fails with
  | unreached isDown can =>
      rw [isDown]
      exact can
  | _ => rfl

/-! ### What a phase may do next -/

/-- Where a submission goes on after the lease was given up. -/
def afterRelease : Except Failure ActionResult → Phase
  | .ok result => announcing result
  | .error failure => done (.error failure)

/-- What one step of a submission on the request of an id may make of a ledger, and where it goes on. -/
inductive Moves (call : Submission) (id : String) (down : Bool) (ledger : Ledger) :
    Phase → Ledger → Phase → Prop where
  | failed {phase : Phase} (failure : Failure) (fails : Fails call id down ledger phase failure) :
      Moves call id down ledger phase ledger (phase.onFailure failure)
  | leased {tries : Nat} (holding : Holding) (member : holding ∈ ledger.requests)
      (same : holding.request.id = id) (time : Double) (free : holding.isFree time = true) :
      Moves call id down ledger (.claiming tries)
        (ledger.lease id ⟨call.token, time.add call.terms.length⟩) (.leased holding.request)
  | busy {tries : Nat} (taken : ∀ holding ∈ ledger.requests, holding.request.id = id →
      ∃ time, holding.isFree time = false) :
      Moves call id down ledger (.claiming tries) ledger (.probing tries)
  | probed {tries : Nat} : Moves call id down ledger (.probing tries) ledger (.waiting tries)
  | waited {tries : Nat} : Moves call id down ledger (.waiting tries) ledger (.claiming (tries + 1))
  | informed {request : Request} :
      Moves call id down ledger (.leased request) ledger (.informed request (ledger.history id))
  | agreed {request : Request} {history : List Action}
      (inLine : request.status.isTerminal = true ∨
        request.status = Submission.derived request history) :
      Moves call id down ledger (.informed request history) ledger (.judging request history)
  | lagging {request : Request} {history : List Action} (pending : request.status = .pending)
      (drifted : Submission.derived request history ≠ .pending) (holding : Holding)
      (member : holding ∈ ledger.requests) (same : holding.request.id = request.id) (clock : Int) :
      Moves call id down ledger (.informed request history) ledger
        (.restoring request history holding.request.ticketId (Moment.ofClock clock))
  | restored {request : Request} {history : List Action} {ticketId : String} {time : Moment}
      (up : down = false) (holding : Holding) (member : holding ∈ ledger.requests)
      (same : holding.request.id = request.id) (held : holding.holder? = some call.token) :
      Moves call id down ledger (.restoring request history ticketId time)
        (ledger.move request.id (Submission.derived request history) time false)
        (.spreading (holding.request.moved (Submission.derived request history) time) history)
  | spread {request : Request} {history : List Action} (up : down = false) :
      Moves call id down ledger (.spreading request history)
        (ledger.tell request.ticketId request.status.ticketStatus) (.judging request history)
  | recorded {request : Request} {history : List Action} (action : Action)
      (fine : call.objection? request history = none)
      (recorded : Trail.Recorded action id call.role call.decision (history.length + 1 : Nat))
      (kept : Trail.isKept call.role call.comment (history.length + 1 : Nat) = true) :
      Moves call id down ledger (.judging request history) (ledger.append action.kept)
        (.recorded request history action)
  | looked {request : Request} {history : List Action} {action : Action} (holding : Holding)
      (member : holding ∈ ledger.requests) (same : holding.request.id = id) (clock : Int) :
      Moves call id down ledger (.recorded request history action) ledger
        (.committing request history action holding.request.ticketId (Moment.ofClock clock))
  | committed {request : Request} {history : List Action} {action : Action} {ticketId : String}
      {time : Moment} (up : down = false) (holding : Holding) (member : holding ∈ ledger.requests)
      (same : holding.request.id = id) (held : holding.holder? = some call.token) :
      Moves call id down ledger (.committing request history action ticketId time)
        (ledger.move id (Submission.derived request (history ++ [action])) time true)
        (.releasing (.ok
          ⟨holding.request.moved (Submission.derived request (history ++ [action])) time, action,
            request.status⟩))
  | released {outcome : Except Failure ActionResult} (up : down = false) (holding : Holding)
      (member : holding ∈ ledger.requests) (same : holding.request.id = id)
      (held : holding.holder? = some call.token) :
      Moves call id down ledger (.releasing outcome) (ledger.free id) (afterRelease outcome)
  | lost {outcome : Except Failure ActionResult} (up : down = false)
      (other : ∀ holding ∈ ledger.requests, holding.request.id = id →
        holding.holder? ≠ some call.token) :
      Moves call id down ledger (.releasing outcome) ledger (afterRelease outcome)
  | announced {result : ActionResult} (changed : result.statusChanged = true) (up : down = false) :
      Moves call id down ledger (.announcing result)
        (ledger.tell result.request.ticketId result.request.status.ticketStatus) (.done (.ok result))
  | quiet {result : ActionResult} (unchanged : result.statusChanged = false) :
      Moves call id down ledger (.announcing result) ledger (.done (.ok result))
  | ended {outcome : Except Failure ActionResult} :
      Moves call id down ledger (.done outcome) ledger (.done outcome)

/-- What one step of a submission does to the actions of a ledger, and to the number of their ids that were
taken. -/
inductive Counts (ledger after : Ledger) (taken later : Nat) : Phase → Phase → Prop where
  | still {phase next : Phase} (same : later = taken) (actions : after.actions = ledger.actions) :
      Counts ledger after taken later phase next
  | missed {request : Request} {history : List Action} {failure : Failure} (one : later = taken + 1)
      (actions : after.actions = ledger.actions) (other : ∀ id, failure ≠ .refused (.leaseLost id)) :
      Counts ledger after taken later (.judging request history) (.releasing (.error failure))
  | recorded {request : Request} {history : List Action} {action : Action} (one : later = taken + 1)
      (numbered : action.id = idText "ACT" (taken + 1)) (actions : after = ledger.append action.kept) :
      Counts ledger after taken later (.judging request history) (.recorded request history action)

end Phase

end Countersign
