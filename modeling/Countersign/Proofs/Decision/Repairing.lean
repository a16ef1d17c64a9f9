/-
Module: Countersign.Proofs.Decision.Repairing
Purpose: What a submission that is refused on a decided request leaves behind it.
Main exports: Request.closedTo, Ledger.restored, Submission.exec_follow_taking, Submission.exec_follow_restoring,
  Submission.exec_follow_refused, Approval.submit_restores, Approval.submit_leaves_decided
-/
import Countersign.Proofs.Decision.LeaseTokens
import Countersign.Proofs.Submission.Passages

namespace Countersign

open Service

/-!
A submission that finds its request pending while the actions on it amount to a decision brings the request and its
ticket in line, and is refused only then. Where the request is decided already it is refused at once: what a ticket
was not told when its request was decided, no later submission tells it.
-/

/-- Why an action of a role is refused on a request that is decided. -/
def Request.closedTo (request : Request) (role : Value) : Refusal :=
  if role.text?.any request.approvers.contains then .requestDecided (.text request.id) request.status
  else .roleNotRequired (.text request.id) role request.approvers

namespace Ledger

variable {ledger : Ledger} {holding : Holding}

/-- The ledger in which a request has the status that the actions on it amount to, with nobody holding the lease, and
in which its ticket was told. -/
def restored (ledger : Ledger) (request : Request) (time : Moment) : Ledger :=
  let status := Submission.derived request (ledger.history request.id)
  (ledger.move request.id status time true).tell request.ticketId status.ticketStatus

/-- Two changes of one request are one. -/
theorem onRequest_onRequest (ledger : Ledger) (id : String) {f : Holding → Holding}
    (kept : ∀ holding : Holding, (f holding).request.id = holding.request.id) (g : Holding → Holding) :
    (ledger.onRequest id f).onRequest id g = ledger.onRequest id (g ∘ f) := by
  simp only [onRequest, List.map_map]
  congr 1
  refine List.map_congr_left fun holding _ => ?_
  by_cases here : holding.request.id = id <;> simp [here, kept]

/-- A lease that is taken and given up is given up. -/
theorem free_lease (ledger : Ledger) (id : String) (taken : Lease) : (ledger.lease id taken).free id = ledger.free id :=
  onRequest_onRequest ledger id (f := fun holding => { holding with lease := some taken }) (fun _ => rfl) _

/-- A status that is written under a lease that is taken and given up is written. -/
theorem free_move_lease (ledger : Ledger) (id : String) (taken : Lease) (status : ApprovalStatus) (time : Moment) :
    ((ledger.lease id taken).move id status time false).free id = ledger.move id status time true := by
  have written := onRequest_onRequest ledger id (f := fun holding => { holding with lease := some taken })
    (fun _ => rfl) fun holding => holding.moved status time false
  calc ((ledger.lease id taken).move id status time false).free id
      = (ledger.onRequest id fun holding => ⟨holding.request.moved status time, some taken⟩).free id :=
        congrArg (free · id) written
    _ = ledger.move id status time true :=
        onRequest_onRequest ledger id (f := fun holding => ⟨holding.request.moved status time, some taken⟩)
          (fun _ => rfl) _

/-- So a request is brought in line by a caller that takes the lease and gives it up. -/
theorem restored_of_lease (taken : Lease) {request : Request} {status : ApprovalStatus}
    (derives : Submission.derived request (ledger.history request.id) = status) (time : Moment) :
    (((ledger.lease request.id taken).move request.id status time false).tell request.ticketId
      status.ticketStatus).free request.id = ledger.restored request time := by
  subst derives
  rw [restored, ← free_move_lease ledger request.id taken]
  rfl

theorem Contended.of_lease {id other : String} {taken : Lease}
    (contended : (ledger.lease other taken).Contended id) : ledger.Contended id :=
  .of_onRequest (f := fun holding => { holding with lease := some taken }) (fun _ _ _ waits => ⟨waits, rfl, rfl⟩)
    contended

/-- The request and its ticket stand there as its history says. -/
theorem mem_restored (member : holding ∈ ledger.requests)
    (ticketed : ∃ mark ∈ ledger.tickets, mark.id = holding.request.ticketId) {status : ApprovalStatus}
    (derives : Submission.derived holding.request (ledger.history holding.request.id) = status) (time : Moment) :
    ⟨holding.request.moved status time, none⟩ ∈ (ledger.restored holding.request time).requests ∧
      ⟨holding.request.ticketId, status.ticketStatus⟩ ∈ (ledger.restored holding.request time).tickets := by
  subst derives
  obtain ⟨mark, there, same⟩ := ticketed
  exact ⟨mem_onRequest_self (f := fun holding => holding.moved _ time true) member rfl,
    mem_tell.2 ⟨mark, there, by rw [if_pos same, same]⟩⟩

end Ledger

namespace Submission

variable {β : Type} {call : Submission} {ledger : Ledger} {s s' : ServiceState} {holding : Holding}
  {history : List Action} {request : Request}

/-- Where a request is decided every action is refused. -/
theorem objection?_of_decided (decided : request.status.isTerminal = true) (history : List Action)
    (about : call.requestId = .text request.id) :
    call.objection? request history = some (request.closedTo call.role) := by
  rw [objection?, Request.closedTo, isRequired, about, decided]
  cases call.role.text?.any request.approvers.contains <;> rfl

/-! ### A submission on its own -/

/-- The lease is taken and the history is read. -/
theorem exec_follow_taking (up : s.down = false) (shown : ledger.ShownBy s.store) (member : holding ∈ ledger.requests)
    (free : holding.isFree (RequestStore.secondsAt s) = true) (about : call.requestId = .text holding.request.id)
    (whole : Text.hasHalf call.token = false) (left : 0 < call.terms.attempts) (fuel : Nat) :
    ∃ ends table, exec (follow call (fuel + 2) ([] : Hooks β) (.claiming 0)) s =
        exec (follow call fuel [] (.informed holding.request (ledger.history holding.request.id)))
          { s with store := s.store.setTable .requests table } ∧
      (ledger.lease holding.request.id ⟨call.token, ends⟩).ShownBy (s.store.setTable .requests table) := by
  obtain ⟨table, claimed, shows⟩ :=
    RequestStore.exec_claim?_free up shown member free whole call.terms.length
  have spent : ¬ call.terms.attempts ≤ (0 : Nat) := by omega
  have took : exec ((Phase.claiming 0).advance call) s =
      (.ok (.leased holding.request), { s with store := s.store.setTable .requests table }) := by
    rw [Phase.advance, if_neg spent, about, exec_bind_ok claimed]
    rfl
  have reads := Trail.exec_listFor (s := { s with store := s.store.setTable .requests table }) up shows
    holding.request.id
  have listed : exec ((Phase.leased holding.request).advance call)
      { s with store := s.store.setTable .requests table } =
      (.ok (.informed holding.request (ledger.history holding.request.id)),
        { s with store := s.store.setTable .requests table }) := by
    rw [Phase.advance, about, exec_bind_ok reads]
    rfl
  refine ⟨_, table, ?_, shows⟩
  rw [Stage.exec_follow_step (Phase.exec_step_ok took) (by simp [Phase.rank]),
    Stage.exec_follow_step (Phase.exec_step_ok listed) (by simp [Phase.rank])]

section Refused

variable (call : Submission)

/-- A request that is decided is left as it is. -/
theorem exec_follow_agreeing (decided : request.status.isTerminal = true) (history : List Action) (fuel : Nat)
    (s : ServiceState) :
    exec (follow call (fuel + 1) ([] : Hooks β) (.informed request history)) s =
      exec (follow call fuel [] (.judging request history)) s := by
  have agrees : exec ((Phase.informed request history).advance call) s = (.ok (.judging request history), s) := by
    simp only [Phase.advance, decided, Bool.true_or, if_true]
    rfl
  exact Stage.exec_follow_step (Phase.exec_step_ok agrees) (by simp [Phase.rank]) fuel

/-- A request that lags behind its history is brought in line with it, and its ticket is told. -/
theorem exec_follow_restoring (up : s.down = false) (shown : ledger.ShownBy s.store)
    (member : holding ∈ ledger.requests) (held : holding.holder? = some call.token)
    (pending : holding.request.status = .pending) (uncontended : ¬ ledger.Contended holding.request.id)
    {status : ApprovalStatus} (derives : derived holding.request history = status) (decided : status ≠ .pending)
    (fuel : Nat) :
    ∃ table tickets journal, exec (follow call (fuel + 3) ([] : Hooks β) (.informed holding.request history)) s =
        exec (follow call fuel [] (.judging (holding.request.moved status (Moment.ofClock s.clock)) history))
          { s with store := (s.store.setTable .requests table).setTable .tickets tickets, journal } ∧
      ((ledger.move holding.request.id status (Moment.ofClock s.clock) false).tell holding.request.ticketId
        status.ticketStatus).ShownBy ((s.store.setTable .requests table).setTable .tickets tickets) := by
  subst derives
  have lags : ¬ (holding.request.status.isTerminal || derived holding.request history == holding.request.status) =
      true := by
    simpa [pending, ApprovalStatus.isTerminal] using decided
  -- The drift is noted, and the ticket of the request is read.
  obtain ⟨noted, notes⟩ : ∃ journal, exec (noteDrift holding.request (derived holding.request history)) s =
      (.ok (), { s with journal }) := exec_note _ _ _ _ _ s
  have found := RequestStore.exec_get_known (s := { s with journal := noted }) up shown member
  have looked : exec ((Phase.informed holding.request history).advance call) s =
      (.ok (.restoring holding.request history holding.request.ticketId (Moment.ofClock s.clock)),
        { s with journal := noted }) := by
    simp only [Phase.advance]
    rw [if_neg lags, exec_bind_ok notes, exec_bind, exec_now]
    exact (exec_bind_ok found _).trans rfl
  -- The status is written.
  rcases RequestStore.exec_write?_held (s := { s with journal := noted }) up shown member held
      (derived holding.request history) (Moment.leavesCalendar_ofClock s.clock) false with
    ⟨-, table, written, writes, shows⟩ | ⟨⟨other, within, different, taken⟩, -⟩
  swap
  · exact absurd taken (shown.sound.moved_key_free member pending uncontended within different _ _ _)
  have restored : exec ((Phase.restoring holding.request history holding.request.ticketId
      (Moment.ofClock s.clock)).advance call) { s with journal := noted } =
        (.ok (.spreading (holding.request.moved (derived holding.request history) (Moment.ofClock s.clock)) history),
          { s with store := s.store.setTable .requests table, journal := written }) := by
    rw [Phase.advance, exec_bind_ok writes]
    rfl
  -- The ticket is told.
  obtain ⟨tickets, told, tells, showsTold⟩ := Approval.exec_tellTicket
    (s := { s with store := s.store.setTable .requests table, journal := written }) up shows
    (holding.request.moved (derived holding.request history) (Moment.ofClock s.clock))
  have spread : exec ((Phase.spreading (holding.request.moved (derived holding.request history)
      (Moment.ofClock s.clock)) history).advance call)
        { s with store := s.store.setTable .requests table, journal := written } =
        (.ok (.judging (holding.request.moved (derived holding.request history) (Moment.ofClock s.clock)) history),
          { s with store := (s.store.setTable .requests table).setTable .tickets tickets, journal := told }) := by
    rw [Phase.advance, exec_bind_ok tells]
    rfl
  refine ⟨table, tickets, told, ?_, showsTold⟩
  rw [Stage.exec_follow_step (Phase.exec_step_ok looked) (by simp [Phase.rank]),
    Stage.exec_follow_step (Phase.exec_step_ok restored) (by simp [Phase.rank]),
    Stage.exec_follow_step (Phase.exec_step_ok spread) (by simp [Phase.rank])]

/-- A refused submission gives up the lease and ends. -/
theorem exec_follow_refused (up : s.down = false) (shown : ledger.ShownBy s.store)
    (member : holding ∈ ledger.requests) (held : holding.holder? = some call.token)
    (about : call.requestId = .text holding.request.id) {refusal : Refusal}
    (objection : call.objection? request history = some refusal) (fuel : Nat) :
    ∃ table, exec (follow call (fuel + 2) ([] : Hooks β) (.judging request history)) s =
        (.ok (.error (.refused refusal), []), { s with store := s.store.setTable .requests table }) ∧
      (ledger.free holding.request.id).ShownBy (s.store.setTable .requests table) := by
  have objects : exec ((Phase.judging request history).advance call) s = (.error (.refused refusal), s) := by
    rw [Phase.advance, objection]
    rfl
  have refused : exec ((Phase.judging request history).step call) s =
      (.ok (.releasing (.error (.refused refusal))), s) := Phase.exec_step_error objects
  obtain ⟨told, table, released, shows⟩ := RequestStore.exec_release_held up shown member held
  have ends : exec ((Phase.releasing (.error (.refused refusal))).advance call) s =
      (.error (.refused refusal), { s with store := s.store.setTable .requests table }) := by
    rw [Phase.advance, about, exec_bind_ok released]
    rfl
  have gaveUp : exec ((Phase.releasing (.error (.refused refusal))).step call) s =
      (.ok (.done (.error (.refused refusal))), { s with store := s.store.setTable .requests table }) :=
    Phase.exec_step_error ends
  refine ⟨table, ?_, shows⟩
  rw [Stage.exec_follow_step refused (by simp [Phase.rank]), Stage.exec_follow_step gaveUp (by simp [Phase.rank])]
  cases fuel <;> rfl

end Refused

end Submission

namespace Trial

/-- The role X approved the request. -/
def approval : Action where
  id := "ACT-000000000001"
  requestId := requestId
  role := "X"
  decision := .approve
  comment := none
  sequence := 1
  key := Action.keyOf requestId "X" .approve "ACT-000000000001"
  createdAt := Moment.ofClock Session.beginning

def pendingTicket : Ticket where
  id := "T"
  status := .pending
  fields := []
  company := none
  createdAt := Moment.ofClock Session.beginning
  updatedAt := Moment.ofClock Session.beginning

/-- A service whose store has a request with that approval, for a ticket that is pending. -/
def standing (request : Request) : ServiceState where
  store :=
    { requests := [Document.kept request.document], actions := [Document.kept approval.document]
      tickets := [Document.kept pendingTicket.document] }
  clock := Session.beginning

/-- The ledger of such a store. -/
def standingLedger (request : Request) : Ledger where
  requests := [⟨request, none⟩]
  actions := [approval.kept]
  tickets := [⟨"T", .pending⟩]

theorem standing_shows (request : Request) (approved : request.approvers ≠ [])
    (whole : Text.hasHalf request.id = false ∧ Text.hasHalf request.ticketId = false) :
    ∃ kept, request.KeptAs kept ∧ (standingLedger kept).ShownBy (standing request).store := by
  obtain ⟨kept, same, here⟩ := Request.kept_shownBy approved whole.1 whole.2
  have action := approval.kept_shownBy (by decide)
  have ticket := pendingTicket.kept_shownBy (fun _ none => by cases none) (by decide +kernel)
  exact ⟨kept, same, .cons here .nil, .cons action .nil, .cons ticket .nil, by constructor <;> simp [standingLedger]⟩

/-- The request once it was decided as approved. -/
def decided : Request := waiting.moved .approved (Moment.ofClock Session.beginning)

end Trial

namespace Approval

variable {ledger : Ledger} {s s' : ServiceState} {holding : Holding} {terms : LeaseTerms}

/-- A submission that is followed to a failure fails. -/
theorem exec_submit_of_follow {id : String} {role comment : Value} {decision : Decision} {failure : Failure}
    (followed : exec (Submission.follow (made s id role decision comment terms)
      ((Phase.claiming 0).rank (made s id role decision comment terms)) ([] : Hooks Unit) (.claiming 0))
        (s.afterNew "LOCK") = (.ok (.error failure, []), s')) :
    exec (submit (.text id) role decision comment terms) s = (.error failure, s') := by
  have ran := (exec_submitWith id role decision comment terms ([] : Hooks Unit) s).trans followed
  rw [submit, exec_bind_ok ran]
  rfl

/-- A pending request whose actions amount to a decision is decided by whoever submits an action next: the request and
its ticket then have the status of the decision, nobody holds the lease, the trail is as it was, and the action is
refused. -/
theorem submit_restores (shown : ledger.ShownBy s.store) (up : s.down = false) (left : 0 < terms.attempts)
    (member : holding ∈ ledger.requests) (pending : holding.request.status = .pending)
    (free : holding.isFree (RequestStore.secondsAt s) = true) {status : ApprovalStatus}
    (derives : Submission.derived holding.request (ledger.history holding.request.id) = status)
    (decided : status.isTerminal = true)
    (ticketed : ∃ mark ∈ ledger.tickets, mark.id = holding.request.ticketId)
    (uncontended : ¬ ledger.Contended holding.request.id) (role : Value) (decision : Decision) (comment : Value) :
    ∃ s' settled after,
      settled = holding.request.moved status (Moment.ofClock s.clock) ∧ settled.status = status ∧
      settled.decidedAt = some (Moment.ofClock s.clock).stored ∧ settled.version = holding.request.version + 1 ∧
      exec (submit (.text holding.request.id) role decision comment terms) s =
        (.error (.refused (settled.closedTo role)), s') ∧
      s'.store.actions = s.store.actions ∧
      after = ledger.restored holding.request (Moment.ofClock s.clock) ∧ after.ShownBy s'.store ∧
      ⟨settled, none⟩ ∈ after.requests ∧ ⟨holding.request.ticketId, status.ticketStatus⟩ ∈ after.tickets := by
  obtain ⟨there, told⟩ := Ledger.mem_restored member ticketed derives (Moment.ofClock s.clock)
  have about := made_on s holding.request.id role decision comment terms
  -- The lease is taken, and the actions that were recorded are read.
  obtain ⟨ends, leased, takes, showsLeased⟩ := Submission.exec_follow_taking (β := Unit) (s := s.afterNew "LOCK")
    up shown member free about.requestId about.whole left (3 * terms.attempts.toNat + 11)
  have memberLeased := Ledger.mem_onRequest_self
    (f := fun holding => { holding with lease := some ⟨idText "LOCK" (s.taken "LOCK" + 1), ends⟩ }) member rfl
  -- The request and its ticket are brought in line with them.
  obtain ⟨requests, tickets, journal, restores, showsRestored⟩ := Submission.exec_follow_restoring (β := Unit)
    (made s holding.request.id role decision comment terms)
    (s := { s.afterNew "LOCK" with store := s.store.setTable .requests leased }) up showsLeased memberLeased rfl pending
    (fun contended => uncontended contended.of_lease) derives
    (by rintro rfl; cases decided) (3 * terms.attempts.toNat + 8)
  have memberRestored := Ledger.mem_onRequest_self
    (f := fun holding => holding.moved status (Moment.ofClock s.clock) false) memberLeased rfl
  -- The action is refused, and the lease is given up.
  have nowDecided : (holding.request.moved status (Moment.ofClock s.clock)).status.isTerminal = true := decided
  obtain ⟨freed, refuses, showsFreed⟩ := Submission.exec_follow_refused (β := Unit)
    (made s holding.request.id role decision comment terms)
    (s := { s.afterNew "LOCK" with
            store := ((s.store.setTable .requests leased).setTable .requests requests).setTable .tickets tickets
            journal })
    up showsRestored memberRestored rfl rfl
    (Submission.objection?_of_decided nowDecided (ledger.history holding.request.id) rfl)
    (3 * terms.attempts.toNat + 6)
  refine ⟨_, _, _, rfl, rfl, if_pos decided, rfl, exec_submit_of_follow (takes.trans (restores.trans refuses)), rfl, rfl,
    ?_, there, told⟩
  rw [← Ledger.restored_of_lease _ derives]
  exact showsFreed

/-- Whoever acts on a request that was approved and not decided finds it decided. -/
theorem submit_restores_of_approval :
    ∃ (s' : ServiceState) (settled : Request) (after : Ledger),
      exec (submit (.text Trial.requestId) (.text "Y") .reject .null Trial.environment.terms)
        (Trial.standing Trial.waiting) = (.error (.refused (settled.closedTo (.text "Y"))), s') ∧
      after.ShownBy s'.store ∧ ⟨settled, none⟩ ∈ after.requests ∧ settled.status = .approved ∧ settled.version = 2 ∧
      ⟨"T", .approved⟩ ∈ after.tickets := by
  obtain ⟨kept, same, shown⟩ := Trial.standing_shows Trial.waiting (by decide) (by decide)
  have id : kept.id = Trial.requestId := same.id
  have history : (Trial.standingLedger kept).history kept.id = [Trial.approval.kept] := by
    rw [id]
    exact List.perm_singleton.1 ((Trial.standingLedger kept).history_perm Trial.requestId)
  have derives : Submission.derived kept ((Trial.standingLedger kept).history kept.id) = .approved := by
    rw [history, Submission.derived, same.approvers]
    decide
  have alone : ¬ (Trial.standingLedger kept).Contended kept.id := by
    rintro ⟨other, member, different, -⟩
    exact different (congrArg (·.request.id) (List.mem_singleton.1 member))
  obtain ⟨s', settled, after, -, status, -, version, ran, -, -, shows, there, told⟩ :=
    submit_restores shown rfl (show 0 < Trial.environment.terms.attempts by decide)
      (List.mem_singleton_self (⟨kept, none⟩ : Holding)) same.status rfl derives rfl
      ⟨_, List.mem_singleton_self _, same.ticketId.symm⟩ alone (.text "Y") .reject .null
  rw [show ({ request := kept, lease := none } : Holding).request.id = Trial.requestId from id] at ran
  rw [show ({ request := kept, lease := none } : Holding).request.ticketId = "T" from same.ticketId] at told
  rw [show ({ request := kept, lease := none } : Holding).request.version = 1 from same.version] at version
  exact ⟨s', settled, after, ran, shows, there, status, version, told⟩

/-- A request that is decided stays as it is whatever anybody submits, and so do all tickets: a ticket that was not told
of the decision is not told of it later. -/
theorem submit_leaves_decided (shown : ledger.ShownBy s.store) (up : s.down = false) (left : 0 < terms.attempts)
    (member : holding ∈ ledger.requests) (decided : holding.request.status.isTerminal = true)
    (free : holding.isFree (RequestStore.secondsAt s) = true) (role : Value) (decision : Decision) (comment : Value) :
    ∃ s', exec (submit (.text holding.request.id) role decision comment terms) s =
        (.error (.refused (holding.request.closedTo role)), s') ∧
      s'.store.actions = s.store.actions ∧ s'.store.tickets = s.store.tickets ∧
      (ledger.free holding.request.id).ShownBy s'.store := by
  have about := made_on s holding.request.id role decision comment terms
  obtain ⟨ends, leased, takes, showsLeased⟩ := Submission.exec_follow_taking (β := Unit) (s := s.afterNew "LOCK")
    up shown member free about.requestId about.whole left (3 * terms.attempts.toNat + 11)
  have memberLeased := Ledger.mem_onRequest_self
    (f := fun holding => { holding with lease := some ⟨idText "LOCK" (s.taken "LOCK" + 1), ends⟩ }) member rfl
  have agrees := Submission.exec_follow_agreeing (β := Unit) (made s holding.request.id role decision comment terms)
    decided (ledger.history holding.request.id) (3 * terms.attempts.toNat + 10)
    { s.afterNew "LOCK" with store := s.store.setTable .requests leased }
  obtain ⟨freed, refuses, showsFreed⟩ := Submission.exec_follow_refused (β := Unit)
    (made s holding.request.id role decision comment terms)
    (s := { s.afterNew "LOCK" with store := s.store.setTable .requests leased })
    up showsLeased memberLeased rfl rfl
    (Submission.objection?_of_decided decided (ledger.history holding.request.id) rfl)
    (3 * terms.attempts.toNat + 8)
  refine ⟨_, exec_submit_of_follow (takes.trans (agrees.trans refuses)), rfl, rfl, ?_⟩
  rw [← Ledger.free_lease ledger holding.request.id]
  exact showsFreed

/-- The ticket of an approved request that was not told stays pending. -/
theorem submit_leaves_decided_of_untold :
    ∃ s', exec (submit (.text Trial.requestId) (.text "Y") .reject .null Trial.environment.terms)
        (Trial.standing Trial.decided) =
          (.error (.refused (.roleNotRequired (.text Trial.requestId) (.text "Y") ["X"])), s') ∧
      s'.store.tickets = (Trial.standing Trial.decided).store.tickets := by
  obtain ⟨kept, same, shown⟩ := Trial.standing_shows Trial.decided (by decide) (by decide)
  have id : kept.id = Trial.requestId := same.id
  obtain ⟨s', ran, -, untold, -⟩ := submit_leaves_decided shown rfl
    (show 0 < Trial.environment.terms.attempts by decide) (List.mem_singleton_self (⟨kept, none⟩ : Holding))
    (show kept.status.isTerminal = true by rw [same.status]; rfl) rfl (.text "Y") .reject .null
  have refusal : kept.closedTo (.text "Y") = .roleNotRequired (.text Trial.requestId) (.text "Y") ["X"] := by
    rw [Request.closedTo, same.approvers, id]
    rfl
  rw [show ({ request := kept, lease := none } : Holding).request.id = Trial.requestId from id, refusal] at ran
  exact ⟨s', ran, untold⟩

end Approval

end Countersign
