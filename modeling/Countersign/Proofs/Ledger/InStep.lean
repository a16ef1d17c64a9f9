/-
Module: Countersign.Proofs.Ledger.InStep
Purpose: Requests that are in step with their trails, and what keeps them so.
Main exports: Action.Numbered, Ledger.Keeps, Ledger.InStep, Ledger.InStep.history_eq, Ledger.InStep.append,
  Ledger.InStep.move
-/
import Countersign.Proofs.Ledger.Evolution
import Countersign.Proofs.Ledger.Reading

namespace Countersign

/-!
As long as nobody writes to a request without its lease, the actions on it have the places one, two, three and so
on, and each of them is committed before the next one is recorded. So at most the last action waits for its commit,
the version counts the commits, and the status is the one that the committed actions amount to.
-/

/-- Actions with the places one, two, three and so on. -/
def Action.Numbered (actions : List Action) : Prop :=
  actions.map Action.sequence = (List.range actions.length).map fun place : Nat => (place + 1 : Int)

namespace Action.Numbered

variable {actions : List Action} {action : Action}

theorem nil : Numbered [] := rfl

/-- An action in the next place may be put behind the others. -/
theorem concat (numbered : Numbered actions) (next : action.sequence = actions.length + 1) :
    Numbered (actions ++ [action]) := by
  have before : actions.map Action.sequence = _ := numbered
  simp [Numbered, before, next, List.range_succ]

/-- Numbered actions are read in the order in which they stand. -/
theorem pairwise (numbered : Numbered actions) :
    actions.Pairwise fun first second => first.noLaterThan second = true := by
  have rising : (actions.map Action.sequence).Pairwise (· < ·) := by
    rw [numbered, List.pairwise_map]
    exact List.pairwise_lt_range.imp fun before => by omega
  exact (List.pairwise_map.1 rising).imp fun before => by simp [noLaterThan, before]

end Action.Numbered

namespace Ledger

variable {ledger after : Ledger} {id token : String} {holding : Holding} {committed : List Action}
  {waiting : Option Action}

/-! ### Changes that do not concern a request -/

/-- What a later ledger keeps of the request of an id: the request with its lease, and its trail. -/
structure Keeps (id : String) (ledger after : Ledger) : Prop where
  requests : ∀ holding ∈ ledger.requests, holding.request.id = id → holding ∈ after.requests
  trail : after.trailOf id = ledger.trailOf id

namespace Keeps

theorem refl (id : String) (ledger : Ledger) : Keeps id ledger ledger := ⟨fun _ member _ => member, rfl⟩

theorem tell (id ticketId : String) (ledger : Ledger) (status : TicketStatus) :
    Keeps id ledger (ledger.tell ticketId status) := ⟨fun _ member _ => member, rfl⟩

end Keeps

/-- Commands open requests and tell tickets, and leave every request that is there alone. -/
theorem Commanded.keeps (commanded : ledger.Commanded after) (id : String) : Keeps id ledger after := by
  cases commanded with
  | nothing => exact .refl _ _
  | registered mark draft fresh => exact ⟨fun _ member _ => member, rfl⟩
  | opened request admits => exact ⟨fun _ member _ => List.mem_append_left _ member, rfl⟩
  | approved mark member submittable => exact .tell _ _ _ _

/-- A submission leaves all requests alone but its own. -/
theorem Submitted.keeps {other : String} (submitted : ledger.Submitted token other after)
    (different : other ≠ id) : Keeps id ledger after := by
  have elsewhere {f : Holding → Holding} : Keeps id ledger (ledger.onRequest other f) := by
    refine ⟨fun holding member same => mem_onRequest.2 ⟨holding, member, if_neg ?_⟩, rfl⟩
    rw [same]
    exact different.symm
  cases submitted with
  | nothing => exact .refl _ _
  | leased holding member same ends => exact elsewhere
  | freed holding member same held => exact elsewhere
  | moved holding member same held pending history cites time releasing => exact elsewhere
  | recorded action about => exact ⟨fun _ member _ => member, trailOf_append_of_ne (about ▸ different)⟩
  | told ticketId status => exact .tell _ _ _ _

/-! ### Requests and their trails -/

/-- A request that is in step with its trail, but for an action that may wait for its commit. -/
structure InStep (ledger : Ledger) (holding : Holding) (committed : List Action) (waiting : Option Action) :
    Prop where
  member : holding ∈ ledger.requests
  trail : ledger.trailOf holding.request.id = committed ++ waiting.toList
  numbered : Action.Numbered (committed ++ waiting.toList)
  version : holding.request.version = committed.length + 1
  status : holding.request.status = .ofActions holding.request.approvers committed
  decidedAt : holding.request.decidedAt.isSome = holding.request.status.isTerminal

/-- A request on which nothing was done yet is in step with its trail. -/
theorem inStep_fresh (member : holding ∈ ledger.requests) (unused : ledger.trailOf holding.request.id = [])
    (pending : holding.request.status = .pending) (version : holding.request.version = 1)
    (undecided : holding.request.decidedAt = none) : ledger.InStep holding [] none where
  member := member
  trail := unused
  numbered := .nil
  version := version
  status := pending
  decidedAt := by rw [undecided, pending]; rfl

namespace InStep

/-- What is read of a request is its trail. -/
theorem history_eq (inStep : ledger.InStep holding committed waiting) :
    ledger.history holding.request.id = committed ++ waiting.toList := by
  rw [history, inStep.trail]
  exact List.mergeSort_of_pairwise inStep.numbered.pairwise

/-- A request stays in step while nothing concerns it. -/
theorem keeps (inStep : ledger.InStep holding committed waiting) (keeps : Keeps holding.request.id ledger after) :
    after.InStep holding committed waiting where
  member := keeps.requests holding inStep.member rfl
  trail := keeps.trail.trans inStep.trail
  numbered := inStep.numbered
  version := inStep.version
  status := inStep.status
  decidedAt := inStep.decidedAt

/-- A request stays in step while only its lease changes. -/
theorem leased (inStep : ledger.InStep holding committed waiting) {f : Holding → Holding}
    (same : holding.request.id = id) (kept : (f holding).request = holding.request) :
    (ledger.onRequest id f).InStep (f holding) committed waiting where
  member := mem_onRequest.2 ⟨holding, inStep.member, if_pos same⟩
  trail := by rw [kept]; exact inStep.trail
  numbered := inStep.numbered
  version := by rw [kept]; exact inStep.version
  status := by rw [kept]; exact inStep.status
  decidedAt := by rw [kept]; exact inStep.decidedAt

/-- An action that is recorded in the next place waits for its commit. -/
theorem append (inStep : ledger.InStep holding committed none) {action : Action}
    (about : action.requestId = holding.request.id) (next : action.sequence = committed.length + 1) :
    (ledger.append action).InStep holding committed (some action) where
  member := inStep.member
  trail := by
    rw [trailOf_append about, inStep.trail, Option.toList_none, List.append_nil]
    rfl
  numbered := by
    have numbered := inStep.numbered
    rw [Option.toList_none, List.append_nil] at numbered
    exact numbered.concat next
  version := inStep.version
  status := inStep.status
  decidedAt := inStep.decidedAt

/-- The commit of the action that waits brings the request in step with its whole trail. -/
theorem move {action : Action} (inStep : ledger.InStep holding committed (some action))
    (same : holding.request.id = id) (pending : holding.request.status = .pending)
    {status : ApprovalStatus} (derived : status = .ofActions holding.request.approvers (committed ++ [action]))
    (time : Moment) :
    (ledger.move id status time true).InStep (holding.moved status time true) (committed ++ [action]) none where
  member := mem_onRequest.2 ⟨holding, inStep.member, if_pos same⟩
  trail := by
    rw [Option.toList_none, List.append_nil]
    exact inStep.trail
  numbered := by
    rw [Option.toList_none, List.append_nil]
    exact inStep.numbered
  version := by
    change holding.request.version + 1 = _
    rw [inStep.version, List.length_append, List.length_singleton]
    rfl
  status := derived
  decidedAt := by
    have undecided := inStep.decidedAt
    rw [pending] at undecided
    change (if status.isTerminal then some time.stored else holding.request.decidedAt).isSome = status.isTerminal
    split
    · next terminal => rw [terminal]; rfl
    · next open_ => rw [undecided, Bool.eq_false_iff.2 open_]; rfl

end InStep

end Ledger

end Countersign
