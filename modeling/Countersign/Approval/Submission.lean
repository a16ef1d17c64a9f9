/-
Module: Countersign.Approval.Submission
Purpose: Applying one role's action to a request, one call to the store at a time.
Main exports: LeaseTerms, Submission, Phase, Phase.step, Phase.cutOff, Hooks, Submission.run
-/
import Countersign.Approval.Opening
import Countersign.Approval.Trail

namespace Countersign

open Service

/-!
A submission takes the lease on its request, reads the history, brings a request that lags behind its
history in line, checks the action, records it, derives the status and commits it; whatever happens
under the lease, the lease is given up at the end, unless the service breaks down before it could read
the history. Each phase makes at most one call to the store, so that submissions interleave phase by
phase. Other commands may run where a phase is a point: just after the lease was taken, just after it
was found taken, just after the history was read and just after the action was recorded.
-/

/-- How long a lease lasts, how often it is tried for, and how long to wait between tries, in seconds. -/
structure LeaseTerms where
  length : Double
  attempts : Int
  pause : Double
deriving DecidableEq, Repr

/-- One role's action on a request, as a caller asks for it. The token names the holder of the lease. -/
structure Submission where
  requestId : Value
  role : Value
  decision : Decision
  comment : Value
  token : String
  terms : LeaseTerms
deriving Repr

/-- How far a submission has come. -/
inductive Phase where
  /-- About to try for the lease, after so many tries. -/
  | claiming (tries : Nat)
  /-- The lease was not free; about to see whether the request exists at all. -/
  | probing (tries : Nat)
  /-- The lease is taken; about to wait. -/
  | waiting (tries : Nat)
  /-- The lease was just taken. -/
  | leased (request : Request)
  /-- The history was just read. -/
  | informed (request : Request) (history : List Action)
  /-- The request lags behind its history; its ticket was read, and its status is about to change. -/
  | restoring (request : Request) (history : List Action) (ticketId : String) (time : Moment)
  /-- The status changed to that of the history; the ticket is about to be told. -/
  | spreading (request : Request) (history : List Action)
  /-- The request is in line with its history; the action is about to be checked and recorded. -/
  | judging (request : Request) (history : List Action)
  /-- The action was just recorded. -/
  | recorded (request : Request) (history : List Action) (action : Action)
  /-- The ticket of the request was read, and its status is about to change. -/
  | committing (request : Request) (history : List Action) (action : Action) (ticketId : String)
      (time : Moment)
  /-- About to give up the lease. -/
  | releasing (outcome : Except Failure ActionResult)
  /-- The action was accepted; the ticket is about to be told, if the status changed. -/
  | announcing (result : ActionResult)
  | done (outcome : Except Failure ActionResult)

/-- The points of a submission at which other commands may run. -/
inductive Point where
  | afterAcquire
  | afterBusy
  | afterList
  | afterRecord
deriving DecidableEq, Repr

namespace Submission

/-- The status that the history of a request amounts to. -/
def derived (request : Request) (history : List Action) : ApprovalStatus :=
  .ofActions request.approvers history

/-- Whether the role of a submission is one of some roles. -/
def isRequired (call : Submission) (approvers : List String) : Bool :=
  call.role.text?.any approvers.contains

/-- Whether the role of a submission has approved in a history. -/
def hasApproved (call : Submission) (history : List Action) : Bool :=
  call.role.text?.any (Progress.hasApproved history)

/-- Why an action is refused on a request with a history, if it is. -/
def objection? (call : Submission) (request : Request) (history : List Action) : Option Refusal :=
  if !call.isRequired request.approvers then
    some (.roleNotRequired call.requestId call.role request.approvers)
  else if request.status.isTerminal then some (.requestDecided call.requestId request.status)
  else if call.decision = .approve && call.hasApproved history then
    some (.roleHasApproved call.requestId call.role)
  else none

/-- Give up trying for the lease. -/
def giveUp {α : Type} (call : Submission) : Service α := do
  note .warning .workflow
    (s!"Could not lease approval request {call.requestId.display} "
      ++ s!"after {call.terms.attempts} attempts")
    [("approval_request_id", call.requestId),
      ("error_code", .text ErrorKind.concurrency.code)]
  refuse (.leaseBusy call.requestId)

/-- Note that a request lags behind its history. -/
def noteDrift (request : Request) (status : ApprovalStatus) : Service Unit :=
  note .warning .workflow
    (s!"Approval request {request.id} status drifted from its actions; "
      ++ s!"restoring {status.name}")
    [("approval_request_id", .text request.id), ("ticket_id", .text request.ticketId),
      ("status", .text status.name)]

/-- Note an action that was accepted. -/
def noteAccepted (call : Submission) (result : ActionResult) : Service Unit :=
  note .info .workflow
    s!"{call.role.display} submitted {call.decision.name} on {call.requestId.display}"
    [("approval_request_id", call.requestId), ("ticket_id", .text result.request.ticketId),
      ("approver_role", call.role), ("action", .text call.decision.name),
      ("status", .text result.request.status.name)]

/-- Let the pause between two tries pass. -/
def pause (call : Submission) : Service Unit :=
  match call.terms.pause.scaledNearest 1000000 with
  | some micros => waitWithin micros
  | none => throw .beyondCalendar

end Submission

namespace Phase

/-- The next phase of a submission, or the failure that ends this one. -/
def advance (call : Submission) : Phase → Service Phase
  | claiming tries => do
      if call.terms.attempts ≤ tries then call.giveUp
      else match ← RequestStore.claim? call.requestId (.text call.token) call.terms.length with
        | some request => return leased request
        | none => return probing tries
  | probing tries => do
      RequestStore.ensureKnown call.requestId
      return waiting tries
  | waiting tries => do
      if (tries : Int) + 1 < call.terms.attempts then call.pause
      return claiming (tries + 1)
  | leased request => do
      return informed request (← Trail.listFor call.requestId)
  | informed request history => do
      let status := Submission.derived request history
      if request.status.isTerminal || status == request.status then
        return judging request history
      else
        Submission.noteDrift request status
        let time ← now
        let found ← RequestStore.get (.text request.id)
        return restoring request history found.ticketId time
  | restoring request history ticketId time => do
      match ← RequestStore.write? (.text request.id) (.text call.token) ticketId
          (Submission.derived request history) time false with
      | some committed => return spreading committed history
      | none => refuse (.leaseLostRestoring (.text request.id))
  | spreading request history => do
      Approval.tellTicket request
      return judging request history
  | judging request history => do
      match call.objection? request history with
      | some refusal => refuse refusal
      | none =>
          let action ← Trail.record call.requestId call.role call.decision
            (.int (history.length + 1 : Nat)) call.comment
          return recorded request history action
  | recorded request history action => do
      let time ← now
      let found ← RequestStore.get call.requestId
      return committing request history action found.ticketId time
  | committing request history action ticketId time => do
      let status := Submission.derived request (history ++ [action])
      match ← RequestStore.write? call.requestId (.text call.token) ticketId status time true with
      | some committed => return releasing (.ok ⟨committed, action, request.status⟩)
      | none => refuse (.leaseLost call.requestId)
  | releasing outcome => do
      let _ ← RequestStore.release call.requestId (.text call.token)
      match outcome with
      | .ok result => return announcing result
      | .error failure => throw failure
  | announcing result => do
      call.noteAccepted result
      if result.statusChanged then Approval.tellTicket result.request
      return done (.ok result)
  | done outcome => return done outcome

/-- Where a submission goes on when a phase fails: under the lease, to giving it up. -/
def onFailure (failure : Failure) : Phase → Phase
  | leased _ => releasing (.error failure)
  | informed _ _ => releasing (.error failure)
  | restoring _ _ _ _ => releasing (.error failure)
  | spreading _ _ => releasing (.error failure)
  | judging _ _ => releasing (.error failure)
  | recorded _ _ _ => releasing (.error failure)
  | committing _ _ _ _ _ => releasing (.error failure)
  | _ => done (.error failure)

/-- One step of a submission. -/
def step (call : Submission) (phase : Phase) : Service Phase := do
  match ← attempt (phase.advance call) with
  | .ok next => return next
  | .error failure => return phase.onFailure failure

/-- The point that a phase is, if it is one. -/
def point? : Phase → Option Point
  | leased _ => some .afterAcquire
  | waiting _ => some .afterBusy
  | informed _ _ => some .afterList
  | recorded _ _ _ => some .afterRecord
  | _ => none

/-- Where a submission goes on when the connection breaks at a point. A lease that was only just taken
stays taken. -/
def cutOff : Phase → Phase
  | leased _ => done (.error .connectionLost)
  | phase => phase.onFailure .connectionLost

/-- How many steps a submission may still take. -/
def rank (call : Submission) : Phase → Nat
  | claiming tries => 3 * (call.terms.attempts.toNat - tries) + 13
  | probing tries => 3 * (call.terms.attempts.toNat - tries) + 12
  | waiting tries => 3 * (call.terms.attempts.toNat - tries) + 11
  | leased _ => 10
  | informed _ _ => 9
  | restoring _ _ _ _ => 8
  | spreading _ _ => 7
  | judging _ _ => 6
  | recorded _ _ _ => 5
  | committing _ _ _ _ _ => 4
  | releasing _ => 2
  | announcing _ => 1
  | done _ => 0

end Phase

/-- What runs at the points of a submission, each at most once. It gives what it has to tell, and whether
the connection breaks there. -/
abbrev Hooks (β : Type) := List (Point × Service (List β × Bool))

namespace Submission

/-- Run what belongs to the point that a phase is, and drop it from what is left to run. -/
def visit {β : Type} (hooks : Hooks β) (phase : Phase) : Service (List β × Hooks β × Phase) := do
  match phase.point? with
  | none => return ([], hooks, phase)
  | some point =>
      match hooks.lookup point with
      | none => return ([], hooks, phase)
      | some hook =>
          let (told, broken) ← hook
          return (told, hooks.filter (·.1 != point), if broken then phase.cutOff else phase)

/-- Go on with a submission for at most `fuel` steps. Gives its outcome and what the hooks told. -/
def follow {β : Type} (call : Submission) :
    Nat → Hooks β → Phase → Service (Except Failure ActionResult × List β)
  | _, _, .done outcome => return (outcome, [])
  | 0, _, _ => return (.error .connectionLost, [])
  | fuel + 1, hooks, phase => do
      let (told, hooks, phase) ← visit hooks (← phase.step call)
      let (outcome, more) ← follow call fuel hooks phase
      return (outcome, told ++ more)

/-- Run a submission to its end. The rank of its first phase bounds the number of its steps. -/
def run {β : Type} (call : Submission) (hooks : Hooks β) :
    Service (Except Failure ActionResult × List β) :=
  follow call ((Phase.claiming 0).rank call) hooks (.claiming 0)

end Submission

namespace Approval

/-- Apply one role's action to a request, with hooks at the points of the submission. -/
def submitWith {β : Type} (requestId role : Value) (decision : Decision) (comment : Value)
    (terms : LeaseTerms) (hooks : Hooks β) : Service (Except Failure ActionResult × List β) := do
  let token ← newId "LOCK"
  Submission.run { requestId, role, decision, comment, token, terms } hooks

/-- Apply one role's action to a request. -/
def submit (requestId role : Value) (decision : Decision) (comment : Value)
    (terms : LeaseTerms) : Service ActionResult := do
  let (outcome, _) ← submitWith requestId role decision comment terms ([] : Hooks Unit)
  settle outcome

/-- A request with its history and the progress of its roles. -/
def progress (requestId : Value) : Service Progress := do
  let request ← RequestStore.get requestId
  return Progress.ofHistory request (← Trail.listFor requestId)

/-- The history of a request. -/
def history (requestId : Value) : Service (List Action) := do
  let _ ← RequestStore.get requestId
  Trail.listFor requestId

/-- How many requests there are in all and in each status. -/
def statistics : Service Value := do
  let counts ← RequestStore.countByStatus
  let total := counts.foldl (fun total (_, size) => total + size) 0
  return .record [("total", .int (total : Nat)),
    ("by_status", .record (counts.map fun (status, size) => (status.name, .int (size : Nat))))]

end Approval

end Countersign
