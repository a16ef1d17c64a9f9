/-
Module: Countersign.Proofs.Ledger.Basic
Purpose: What a store is about: requests with their leases, actions, and tickets with their statuses.
Main exports: Lease, Holding, TicketMark, Ledger, Holding.keyed, Ledger.Sound, Ledger.ShownBy,
  Ledger.Located
-/
import Countersign.Approval.Storage
import Countersign.Proofs.Schema.Reading
import Countersign.Proofs.Store.Entries

namespace Countersign

/-!
A ledger is the store seen through the eyes of the approval process. It keeps requests together with who
holds the lease on them, the trail of actions, and of each ticket its status, all in the order of insertion.
A store that shows a ledger has one document for each of its entries, and the commands of the approval
process do to the ledger what they do to the store.
-/

/-- A lease on a request: who holds it, and until when. -/
structure Lease where
  holder : String
  ends : Double
deriving DecidableEq

namespace Lease

/-- How a document tells when the lease on it ends. -/
def endsValue : Option Lease → Value
  | none => .null
  | some lease => .float lease.ends

end Lease

/-- A request and the lease on it. -/
structure Holding where
  request : Request
  lease : Option Lease
deriving DecidableEq

namespace Holding

/-- What no two requests of a ledger share beside their ids. -/
def key (holding : Holding) : String :=
  Request.activeKey holding.request.ticketId holding.request.id holding.request.status

/-- Who holds the lease. -/
def holder? (holding : Holding) : Option String := holding.lease.map Lease.holder

/-- Whether the lease may be taken at a time. -/
def isFree (holding : Holding) (time : Double) : Bool :=
  match holding.lease with
  | none => true
  | some lease => lease.ends.le time

/-- A document that keeps a request and the lease on it. -/
structure ShownBy (holding : Holding) (document : Document) : Prop where
  reads : Request.check document = .accepted holding.request
  identity : Fields.get? document "_id" = some (.text holding.request.id)
  activeKey : Fields.get? document "active_key" = some (.text holding.key)
  status : Fields.get? document "status" = some (.text holding.request.status.name)
  version : Fields.get? document "version" = some (.int holding.request.version)
  holder : Fields.get? document "locked_by" = some (.ofText? holding.holder?)
  ends : Fields.get? document "lock_expires_at" = some (Lease.endsValue holding.lease)
  wholeId : Text.hasHalf holding.request.id = false
  wholeTicketId : Text.hasHalf holding.request.ticketId = false

namespace ShownBy

variable {holding : Holding} {document : Document}

theorem id (shown : holding.ShownBy document) :
    Fields.get? document "approval_request_id" = some (.text holding.request.id) :=
  Fields.required_text_iff.1 (Request.check_eq_accepted_iff.1 shown.reads).1

end ShownBy

/-- The unique keys of requests. -/
def keys : List (String × (Holding → String)) :=
  [("approval_request_id", fun holding => holding.request.id), ("active_key", key)]

theorem keyed : Keyed ShownBy (fun holding => holding.request.id) keys where
  identity := ShownBy.identity
  texts shown := by simp [keys, shown.id, shown.activeKey]
  unique := by simp [keys]

/-- Two requests that share no key have ids and active keys of their own. -/
theorem apart_iff {first second : Holding} :
    (∀ key ∈ keys, key.2 first ≠ key.2 second) ↔
      first.request.id ≠ second.request.id ∧ first.key ≠ second.key := by
  simp [keys]

end Holding

/-- A document that keeps an action. -/
structure Action.ShownBy (action : Action) (document : Document) : Prop where
  reads : Action.check document = .accepted action
  identity : Fields.get? document "_id" = some (.text action.id)
  sequence : Fields.get? document "sequence" = some (.int action.sequence)
  createdAt : Fields.get? document "created_at" = some (.moment action.createdAt)

namespace Action.ShownBy

variable {action : Action} {document : Document}

theorem id (shown : action.ShownBy document) :
    Fields.get? document "action_id" = some (.text action.id) :=
  Fields.required_text_iff.1 (Action.check_eq_accepted_iff.1 shown.reads).1

theorem requestId (shown : action.ShownBy document) :
    Fields.get? document "approval_request_id" = some (.text action.requestId) :=
  Fields.required_text_iff.1 (Action.check_eq_accepted_iff.1 shown.reads).2.1

theorem key (shown : action.ShownBy document) :
    Fields.get? document "idempotency_key" = some (.text action.key) :=
  Fields.required_text_iff.1 (Action.check_eq_accepted_iff.1 shown.reads).2.2.2.2.2.2.1

end Action.ShownBy

namespace Action

/-- The unique keys of actions. -/
def keys : List (String × (Action → String)) := [("action_id", Action.id), ("idempotency_key", Action.key)]

theorem keyed : Keyed ShownBy Action.id keys where
  identity := ShownBy.identity
  texts shown := by simp [keys, shown.id, shown.key]
  unique := by simp [keys]

end Action

/-- A ticket and where it stands. -/
structure TicketMark where
  id : String
  status : TicketStatus
deriving DecidableEq

/-- A document that keeps a ticket. -/
structure TicketMark.ShownBy (mark : TicketMark) (document : Document) : Prop where
  reads : ∃ ticket, Ticket.check document = .accepted ticket
  id : Fields.get? document "ticket_id" = some (.text mark.id)
  identity : Fields.get? document "_id" = some (.text mark.id)
  status : Fields.get? document "status" = some (.text mark.status.name)
  wholeId : Text.hasHalf mark.id = false

namespace TicketMark

/-- The unique key of tickets. -/
def keys : List (String × (TicketMark → String)) := [("ticket_id", TicketMark.id)]

theorem keyed : Keyed ShownBy TicketMark.id keys where
  identity := ShownBy.identity
  texts shown := by simp [keys, shown.id]
  unique := by simp [keys]

end TicketMark

/-- What a store is about, for the approval process. -/
structure Ledger where
  requests : List Holding := []
  actions : List Action := []
  tickets : List TicketMark := []

namespace Ledger

/-- No two entries of a ledger share what only one may have. -/
structure Sound (ledger : Ledger) : Prop where
  requestIds : (ledger.requests.map (·.request.id)).Nodup
  activeKeys : (ledger.requests.map Holding.key).Nodup
  actionIds : (ledger.actions.map (·.id)).Nodup
  actionKeys : (ledger.actions.map (·.key)).Nodup
  ticketIds : (ledger.tickets.map (·.id)).Nodup

/-- A store that keeps a ledger, document by document. -/
structure ShownBy (ledger : Ledger) (store : Store) : Prop where
  requests : List.Forall₂ Holding.ShownBy ledger.requests store.requests
  actions : List.Forall₂ Action.ShownBy ledger.actions store.actions
  tickets : List.Forall₂ TicketMark.ShownBy ledger.tickets store.tickets
  sound : ledger.Sound

/-- The empty store shows the empty ledger. -/
theorem shownBy_empty : ({} : Ledger).ShownBy {} :=
  ⟨.nil, .nil, .nil, by constructor <;> simp⟩

/-- Only three tables of a store tell of its ledger. -/
theorem ShownBy.congr {ledger : Ledger} {store other : Store} (shown : ledger.ShownBy store)
    (requests : other.requests = store.requests) (actions : other.actions = store.actions)
    (tickets : other.tickets = store.tickets) : ledger.ShownBy other := by
  refine ⟨?_, ?_, ?_, shown.sound⟩
  · rw [requests]
    exact shown.requests
  · rw [actions]
    exact shown.actions
  · rw [tickets]
    exact shown.tickets

end Ledger

namespace Ledger

/-- Where a request stands in a ledger, and its document in the store that shows it. -/
structure Located (ledger : Ledger) (store : Store) (holding : Holding) where
  front : List Holding
  back : List Holding
  before : List Document
  document : Document
  behind : List Document
  entries : ledger.requests = front ++ holding :: back
  documents : store.requests = before ++ document :: behind
  inFront : List.Forall₂ Holding.ShownBy front before
  shown : holding.ShownBy document
  inBack : List.Forall₂ Holding.ShownBy back behind
  others : ∀ other ∈ front ++ back, other.request.id ≠ holding.request.id

/-- The other requests stand in front of it or behind it. -/
theorem Located.mem_others {ledger : Ledger} {store : Store} {holding : Holding}
    (located : ledger.Located store holding) (other : Holding) :
    other ∈ located.front ++ located.back ↔ other ∈ ledger.requests ∧ other ≠ holding := by
  have apart (beside : other ∈ located.front ++ located.back) : other ≠ holding := by
    rintro rfl
    exact located.others other beside rfl
  rw [located.entries, List.mem_append, List.mem_append, List.mem_cons] at *
  tauto

/-- Every request of a ledger that is shown stands somewhere. -/
theorem ShownBy.located {ledger : Ledger} {store : Store} (shown : ledger.ShownBy store)
    {holding : Holding} (member : holding ∈ ledger.requests) :
    Nonempty (ledger.Located store holding) := by
  obtain ⟨front, back, before, document, behind, entries, documents, inFront, here, inBack⟩ :=
    split_of_mem shown.requests member
  have unique := shown.sound.requestIds
  rw [entries] at unique
  exact ⟨⟨front, back, before, document, behind, entries, documents, inFront, here, inBack,
    ne_of_nodup unique⟩⟩

/-- A request is known by its id. -/
theorem Sound.eq_of_id {ledger : Ledger} (sound : ledger.Sound) {first second : Holding}
    (one : first ∈ ledger.requests) (two : second ∈ ledger.requests)
    (same : first.request.id = second.request.id) : first = second :=
  List.inj_on_of_nodup_map sound.requestIds one two same

/-- And so is a ticket. -/
theorem Sound.eq_of_ticketId {ledger : Ledger} (sound : ledger.Sound) {first second : TicketMark}
    (one : first ∈ ledger.tickets) (two : second ∈ ledger.tickets) (same : first.id = second.id) : first = second :=
  List.inj_on_of_nodup_map sound.ticketIds one two same

end Ledger

end Countersign
