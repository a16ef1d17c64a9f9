/-
Module: Countersign.Proofs.Decision.Backing
Purpose: Every decision is backed by the trail, and requests keep what opening them fixed.
Main exports: Request.BackedBy, World.Opens, World.Changes.backed, World.Changes.origins,
  World.decisions_backed
-/
import Countersign.Proofs.Decision.Replay
import Countersign.Proofs.World.Invariant

namespace Countersign

open Service

/-!
A status is written by a submission that computed it from the history that it read and from its own action. The
history may be old when the status is written, but the trail still has all of it, so that what was approved or
rejected is on record for ever. Opening a request fixes what it asks for, and no event changes that.
-/

/-- A request that stands as some of the actions on it say. -/
structure Request.BackedBy (request : Request) (actions : List Action) : Prop where
  approved : request.status = .approved → ∀ role ∈ request.approvers,
    ∃ action ∈ actions, action.requestId = request.id ∧ action.role = role ∧ action.decision = .approve
  rejected : request.status = .rejected → ∃ role ∈ request.approvers,
    ∃ action ∈ actions, action.requestId = request.id ∧ action.role = role ∧ action.decision = .reject

namespace Request.BackedBy

variable {request : Request} {actions more : List Action}

theorem of_pending (pending : request.status = .pending) : request.BackedBy actions := by
  constructor <;> intro decided <;> rw [pending] at decided <;> cases decided

/-- A longer trail backs what a shorter one does. -/
theorem mono (backed : request.BackedBy actions)
    (within : ∀ action ∈ actions, action.requestId = request.id → action ∈ more) :
    request.BackedBy more := by
  constructor
  · intro decided role needed
    obtain ⟨action, member, about, told⟩ := backed.approved decided role needed
    exact ⟨action, within action member about, about, told⟩
  · intro decided
    obtain ⟨role, needed, action, member, about, told⟩ := backed.rejected decided
    exact ⟨role, needed, action, within action member about, about, told⟩

end Request.BackedBy

namespace Ledger

variable {ledger after : Ledger} {id token : String}

/-- The status that cited actions amount to is backed by the trail that has them. -/
theorem Cites.backed {request : Request} {history : List Action}
    (cites : ledger.Cites request.id history) (time : Moment) :
    (request.moved (.ofActions request.approvers history) time).BackedBy ledger.actions := by
  have recorded {role : String} {decision : Decision}
      (within : (role, decision) ∈ history.map Action.step) :
      ∃ action ∈ ledger.actions, action.requestId = request.id ∧ action.role = role ∧
        action.decision = decision := by
    obtain ⟨action, member, told⟩ := List.mem_map.mp within
    obtain ⟨kept, known, about, same⟩ := cites action member
    have kind := same.trans told
    exact ⟨kept, known, about, congrArg Prod.fst kind, congrArg Prod.snd kind⟩
  constructor
  · intro decided role needed
    exact recorded (ApprovalStatus.exists_approve decided role needed)
  · intro decided
    obtain ⟨role, needed, within⟩ := ApprovalStatus.exists_reject decided
    exact ⟨role, needed, recorded within⟩

/-- A change of one request keeps all requests backed when it keeps the one. -/
theorem backed_onRequest {f : Holding → Holding}
    (backed : ∀ holding ∈ ledger.requests, holding.request.BackedBy ledger.actions)
    (changed : ∀ holding ∈ ledger.requests, holding.request.id = id →
      (f holding).request.BackedBy ledger.actions) :
    ∀ holding ∈ (ledger.onRequest id f).requests, holding.request.BackedBy ledger.actions := by
  intro holding member
  obtain ⟨before, known, rfl⟩ := mem_onRequest.1 member
  split
  · next same => exact changed before known same
  · exact backed before known

theorem Submitted.backed (sound : ledger.Sound) (submitted : ledger.Submitted token id after)
    (backed : ∀ holding ∈ ledger.requests, holding.request.BackedBy ledger.actions) :
    ∀ holding ∈ after.requests, holding.request.BackedBy after.actions := by
  cases submitted with
  | nothing => exact backed
  | leased holding member same ends =>
      exact backed_onRequest backed fun before known _ => backed before known
  | freed holding member same held =>
      exact backed_onRequest backed fun before known _ => backed before known
  | moved holding member same held pending history cites time releasing =>
      apply backed_onRequest backed
      intro before known about
      obtain rfl := sound.eq_of_id known member (about.trans same.symm)
      subst about
      exact cites.backed time
  | recorded action about =>
      exact fun holding member => (backed holding member).mono fun other within _ =>
        List.mem_append_left _ within
  | told ticketId status => exact backed

theorem Commanded.backed (commanded : ledger.Commanded after)
    (backed : ∀ holding ∈ ledger.requests, holding.request.BackedBy ledger.actions) :
    ∀ holding ∈ after.requests, holding.request.BackedBy after.actions := by
  cases commanded with
  | nothing => exact backed
  | registered mark draft fresh => exact backed
  | opened request admits =>
      intro holding member
      rcases List.mem_append.mp member with old | new
      · exact backed holding old
      · obtain rfl := List.mem_singleton.mp new
        exact .of_pending admits.pending
  | approved mark member submittable => exact backed

end Ledger

/-- Where every required role has approved, none is missing. -/
theorem Progress.pending_eq_nil {request : Request} {actions : List Action}
    (backed : request.BackedBy actions) (approved : request.status = .approved) :
    (Progress.ofHistory request actions).pending = [] := by
  rw [ofHistory, List.filter_eq_nil_iff]
  intro role needed
  obtain ⟨action, member, -, told, approves⟩ := backed.approved approved role needed
  have found : hasApproved actions role = true :=
    List.any_eq_true.2 ⟨action, member, by simp [told, approves]⟩
  simp [found]

namespace World

variable {environment : Session.Environment} {order : Order} {w w' : World} {ledger after : Ledger}
  {event : Event}

/-- A command that opens a request, which the store had not kept before. -/
structure Opens (environment : Session.Environment) (w : World) (step : Session.Step) (w' : World)
    (request : Request) : Prop where
  command : w.take environment (.command step) = some w'
  fresh : ∀ other, w.Stores other → other.id ≠ request.id
  stored : w'.Stores request
  pending : request.status = .pending

namespace Changes

/-- What every event keeps: decisions are backed by the trail. -/
theorem backed (changes : w.Changes ledger event w' after) (sound : ledger.Sound)
    (before : ∀ holding ∈ ledger.requests, holding.request.BackedBy ledger.actions) :
    ∀ holding ∈ after.requests, holding.request.BackedBy after.actions := by
  cases changes with
  | commanded commanded down => exact commanded.backed before
  | shifted => exact before
  | submitted on => exact before
  | advanced here on knows moves down => exact (moves.submitted knows).backed sound before
  | cut here point => exact before

/-- A request was there before an event, or a command opened it. -/
theorem origins (changes : w.Changes ledger event w' after) {later : Holding}
    (member : later ∈ after.requests) :
    (∃ holding ∈ ledger.requests, holding.request.SameOrigin later.request) ∨
      ∃ step, event = .command step ∧ later.request.status = .pending ∧
        ∀ other ∈ ledger.requests, other.request.id ≠ later.request.id := by
  have kept (known : later ∈ ledger.requests) :
      ∃ holding ∈ ledger.requests, holding.request.SameOrigin later.request :=
    ⟨later, known, .refl _⟩
  cases changes with
  | @commanded step _ _ commanded down =>
      cases commanded with
      | nothing => exact Or.inl (kept member)
      | registered mark draft fresh => exact Or.inl (kept member)
      | opened request admits =>
          rcases List.mem_append.mp member with old | new
          · exact Or.inl (kept old)
          · obtain rfl := List.mem_singleton.mp new
            exact Or.inr ⟨step, rfl, admits.pending, admits.freshId⟩
      | approved mark known submittable => exact Or.inl (kept member)
  | shifted => exact Or.inl (kept member)
  | submitted on => exact Or.inl (kept member)
  | advanced here on knows moves down => exact Or.inl ((moves.submitted knows).origins later member)
  | cut here point => exact Or.inl (kept member)

end Changes

/-- How a request came into a world that was reached. -/
def HasOrigin (environment : Session.Environment) (order : Order) (w : World) (request : Request) :
    Prop :=
  ∃ w₀ step w₁ opened, Runs environment order start w₀ ∧ w₀.Opens environment step w₁ opened ∧
    Runs environment order w₁ w ∧ opened.SameOrigin request

/-- What is known of the requests of every world that is reached. -/
structure Accounts (environment : Session.Environment) (order : Order) (w : World) (ledger : Ledger) :
    Prop where
  reached : Runs environment order start w
  backed : ∀ holding ∈ ledger.requests, holding.request.BackedBy ledger.actions
  origins : ∀ holding ∈ ledger.requests, HasOrigin environment order w holding.request

namespace Accounts

theorem start : Accounts environment order World.start {} where
  reached := .stay
  backed _ member := by cases member
  origins _ member := by cases member

theorem next (accounts : Accounts environment order w ledger) (holds : w.Holds ledger)
    (allowed : order w event = true) (taken : w.take environment event = some w')
    (changes : w.Changes ledger event w' after) (later : w'.Holds after) :
    Accounts environment order w' after := by
  have step : Runs environment order w w' := .next .stay event allowed taken
  refine ⟨accounts.reached.trans step, changes.backed holds.sound accounts.backed, ?_⟩
  intro holding member
  rcases changes.origins member with ⟨before, known, same⟩ | ⟨command, rfl, pending, fresh⟩
  · obtain ⟨w₀, command, w₁, opened, early, opens, late, origin⟩ := accounts.origins before known
    exact ⟨w₀, command, w₁, opened, early, opens, late.trans step, origin.trans same⟩
  · have opens : w.Opens environment command w' holding.request := by
      refine ⟨taken, ?_, later.stores_iff.2 ⟨holding, member, rfl⟩, pending⟩
      intro other stored
      obtain ⟨before, known, rfl⟩ := holds.stores_iff.1 stored
      exact fresh before known
    exact ⟨w, command, w', holding.request, accounts.reached, opens, .stay, .refl _⟩

end Accounts

/-- In every world that is reached, by submissions and commands in any order, every request that the store keeps
is backed: all required roles have approved what is approved, so that none is listed as missing, and a required
role has rejected what is rejected. And it asks for what it asked for when a command opened it. -/
theorem decisions_backed (runs : Runs environment order start w) :
    ∀ document ∈ w.state.store.requests, ∃ request, Request.check document = .accepted request ∧
      request.BackedBy (w.history request.id) ∧
      (∃ progress, exec (Approval.progress (.text request.id)) w.reachable = (.ok progress, w.reachable) ∧
        progress.request = request ∧ (request.status = .approved → progress.pending = [])) ∧
      HasOrigin environment order w request := by
  obtain ⟨ledger, holds, -, accounts⟩ := runs.preserves (P := Accounts environment order)
    (fun holds accounts allowed taken changes later => accounts.next holds allowed taken changes later)
    holds_start .start
  intro document member
  obtain ⟨holding, within, reads⟩ := holds.reads member
  have backed : holding.request.BackedBy (w.history holding.request.id) := by
    apply (accounts.backed holding within).mono
    intro action member about
    rw [holds.history_eq]
    exact Ledger.mem_history.2 ⟨member, about⟩
  refine ⟨holding.request, reads, backed, ?_, accounts.origins holding within⟩
  refine ⟨Progress.ofHistory holding.request (w.history holding.request.id), ?_, rfl,
    Progress.pending_eq_nil backed⟩
  rw [Approval.progress, exec_bind_ok (holds.exec_get within), exec_bind_ok (holds.exec_listFor _),
    holds.history_eq]
  rfl

/-- The request that both roles approved is backed by the trail. -/
theorem decisions_backed_of_two_approvals :
    ∃ w request, Runs Trial.environment anyOrder start w ∧ w.Stores request ∧
      request.status = .approved ∧ request.BackedBy (w.history request.id) ∧
      HasOrigin Trial.environment anyOrder w request := by
  obtain ⟨w, runs, found⟩ := Runs.exists_of_play
    (p := fun w => w.storesAny fun request => request.status == .approved)
    (show (start.play Trial.environment anyOrder Trial.bothApprove).any _ = true by decide +kernel)
  obtain ⟨request, ⟨document, member, reads⟩, approved⟩ := exists_of_storesAny found
  obtain ⟨same, alsoReads, backed, -, origin⟩ := decisions_backed runs document member
  obtain rfl := Checked.accepted.inj (reads.symm.trans alsoReads)
  exact ⟨w, request, runs, ⟨document, member, reads⟩, by simpa using approved, backed, origin⟩

end World

end Countersign
