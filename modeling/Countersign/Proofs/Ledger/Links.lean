/-
Module: Countersign.Proofs.Ledger.Links
Purpose: The entries of a ledger belong to each other, and have the ids and the keys that the service gives.
Main exports: Ledger.Contended, Ledger.Sound.moved_key_free, Ledger.Linked, Ledger.Linked.eq_of_key,
  Ledger.Linked.not_contended, Ledger.Linked.later, Ledger.Linked.commanded, Ledger.Linked.append
-/
import Countersign.Proofs.Ledger.Evolution
import Countersign.Proofs.Ledger.Keys

namespace Countersign

open Service

/-!
Every request is one for a ticket that is there, and every action is one on a request that is there. Their ids are
those that the service gives, one after the other, so the next action has an id that no other has; and the key of
an action is made of what the action says. Only the ids of tickets are chosen by callers, and the key of a request that
waits is the id of its ticket. So it may be the key that another request is to have when it is decided.
-/

namespace Ledger

/-- Another request waits for a ticket that has the id of a request, so that its key is that of a decision on that
request. -/
def Contended (ledger : Ledger) (id : String) : Prop :=
  ∃ holding ∈ ledger.requests, holding.request.id ≠ id ∧ holding.request.status = .pending ∧
    holding.request.ticketId = id

/-- It did so before a change of one request that makes none wait. -/
theorem Contended.of_onRequest {ledger : Ledger} {id other : String} {f : Holding → Holding}
    (waits : ∀ holding ∈ ledger.requests, holding.request.id = other → (f holding).request.status = .pending →
      holding.request.status = .pending ∧ (f holding).request.id = holding.request.id ∧
        (f holding).request.ticketId = holding.request.ticketId)
    (contended : (ledger.onRequest other f).Contended id) : ledger.Contended id := by
  obtain ⟨holding, member, different, pending, about⟩ := contended
  obtain ⟨before, known, rfl⟩ := mem_onRequest.1 member
  refine ⟨before, known, ?_⟩
  split at pending
  · next here =>
      obtain ⟨waited, sameId, sameTicket⟩ := waits before known here pending
      rw [if_pos here] at different about
      exact ⟨sameId ▸ different, waited, sameTicket ▸ about⟩
  · next elsewhere =>
      rw [if_neg elsewhere] at different about
      exact ⟨different, pending, about⟩

/-- A pending request may be given any status, unless another request waits for a ticket of its id. -/
theorem Sound.moved_key_free {ledger : Ledger} (sound : ledger.Sound) {holding : Holding}
    (member : holding ∈ ledger.requests) (pending : holding.request.status = .pending)
    (apart : ¬ ledger.Contended holding.request.id) {other : Holding} (within : other ∈ ledger.requests)
    (different : other ≠ holding) (status : ApprovalStatus) (time : Moment) (releasing : Bool) :
    other.key ≠ (holding.moved status time releasing).key := by
  intro same
  have undecided : holding.key = holding.request.ticketId := by
    rw [Holding.key, Request.activeKey, pending]
    rfl
  cases terminal : status.isTerminal with
  | false =>
      have waits : (holding.moved status time releasing).key = holding.key := by
        rw [undecided]
        exact if_neg (Bool.eq_false_iff.1 terminal)
      exact different (List.inj_on_of_nodup_map sound.activeKeys within member (same.trans waits))
  | true =>
      have decided : (holding.moved status time releasing).key = holding.request.id := if_pos terminal
      rw [decided, Holding.key, Request.activeKey] at same
      split at same
      · exact different (sound.eq_of_id within member same)
      · next waits =>
          exact apart ⟨other, within, fun alike => different (sound.eq_of_id within member alike),
            ApprovalStatus.eq_pending_of_not_terminal waits, same⟩

/-- A ledger whose entries belong to each other, when so many ids of actions have been taken. -/
structure Linked (ledger : Ledger) (taken : Nat) : Prop where
  requestIds : ∀ holding ∈ ledger.requests, ∃ number, holding.request.id = idText "APR" number
  ticketed : ∀ holding ∈ ledger.requests, holding.request.ticketId ∈ ledger.tickets.map (·.id)
  attached : ∀ action ∈ ledger.actions, ∃ holding ∈ ledger.requests, holding.request.id = action.requestId
  actionIds : ∀ action ∈ ledger.actions, ∃ number ≤ taken, action.id = idText "ACT" number
  actionKeys : ∀ action ∈ ledger.actions,
    action.key = Action.keyOf action.requestId action.role action.decision action.id

namespace Linked

variable {ledger after : Ledger} {taken more : Nat}

theorem empty : Linked {} 0 where
  requestIds _ member := by cases member
  ticketed _ member := by cases member
  attached _ member := by cases member
  actionIds _ member := by cases member
  actionKeys _ member := by cases member

/-- The next action has an id that no other has. -/
theorem next_fresh (linked : ledger.Linked taken) {number : Nat} (next : taken < number) :
    ∀ action ∈ ledger.actions, action.id ≠ idText "ACT" number := by
  intro action member same
  obtain ⟨earlier, few, known⟩ := linked.actionIds action member
  have := idText_injective "ACT" (known.symm.trans same)
  omega

/-- No request that is there has an id with a colon or with the mark of halves. -/
theorem plain (linked : ledger.Linked taken) {holding : Holding} (member : holding ∈ ledger.requests) :
    ':' ∉ holding.request.id.toList ∧ ∀ c ∈ holding.request.id.toList, c ≠ Text.mark := by
  obtain ⟨number, known⟩ := linked.requestIds holding member
  rw [known]
  exact idText_plain (.inl rfl) number

/-- A request with an id that no other has is one that nothing was done on. -/
theorem trailOf_eq_nil (linked : ledger.Linked taken) {id : String}
    (fresh : ∀ holding ∈ ledger.requests, holding.request.id ≠ id) : ledger.trailOf id = [] := by
  rw [trailOf, List.filter_eq_nil_iff]
  intro action member same
  obtain ⟨holding, known, about⟩ := linked.attached action member
  exact fresh holding known (about.trans (beq_iff_eq.1 same))

/-- An action that has the key of the next one on a request is an approval of the same role on it, as the next one is
then, too. -/
theorem eq_of_key (linked : ledger.Linked taken) {holding : Holding} (member : holding ∈ ledger.requests)
    {other : Action} (within : other ∈ ledger.actions) {role : String} {decision : Decision} {number : Nat}
    (fresh : other.id ≠ idText "ACT" number)
    (same : other.key = Action.keyOf holding.request.id role decision (idText "ACT" number)) :
    other.requestId = holding.request.id ∧ other.step = (role, .approve) ∧ decision = .approve := by
  obtain ⟨earlier, -, numbered⟩ := linked.actionIds other within
  obtain ⟨known, there, about⟩ := linked.attached other within
  have plain := (linked.plain there).1
  rw [about] at plain
  rw [linked.actionKeys other within, numbered] at same
  rcases Action.eq_of_keyOf_eq plain (linked.plain member).1 same with ⟨requestId, rfl, approves, rfl⟩ | equal
  · exact ⟨requestId, by rw [Action.step, approves], rfl⟩
  · exact absurd (equal ▸ numbered) fresh

/-- No request waits for a ticket that is not there. -/
theorem not_contended (linked : ledger.Linked taken) {id : String} (apart : id ∉ ledger.tickets.map (·.id)) :
    ¬ ledger.Contended id := by
  rintro ⟨holding, member, -, -, about⟩
  exact apart (about ▸ linked.ticketed holding member)

/-- Entries still belong to each other when requests kept what opening them fixed and no ticket was taken out. -/
theorem later (linked : ledger.Linked taken) (few : taken ≤ more) (evolves : ledger.Evolves after)
    (requests : ∀ later ∈ after.requests, ∃ holding ∈ ledger.requests,
      holding.request.SameOrigin later.request)
    (tickets : ledger.tickets.map (·.id) ⊆ after.tickets.map (·.id))
    (actions : after.actions = ledger.actions) : after.Linked more where
  requestIds later member := by
    obtain ⟨holding, known, same⟩ := requests later member
    rw [same.id]
    exact linked.requestIds holding known
  ticketed later member := by
    obtain ⟨holding, known, same⟩ := requests later member
    rw [same.ticketId]
    exact tickets (linked.ticketed holding known)
  attached action member := by
    obtain ⟨holding, known, about⟩ := linked.attached action (actions ▸ member)
    obtain ⟨later, found, same⟩ := evolves.origins holding known
    exact ⟨later, found, same.id.trans about⟩
  actionIds action member := by
    obtain ⟨number, before, known⟩ := linked.actionIds action (actions ▸ member)
    exact ⟨number, Nat.le_trans before few, known⟩
  actionKeys action member := linked.actionKeys action (actions ▸ member)

/-- A request for a ticket that is there keeps the links. -/
theorem enter (linked : ledger.Linked taken) {request : Request}
    (numbered : ∃ number, request.id = idText "APR" number)
    (ticketed : request.ticketId ∈ ledger.tickets.map (·.id)) : (ledger.enter request).Linked taken where
  requestIds holding member := by
    rcases List.mem_append.1 member with old | new
    · exact linked.requestIds holding old
    · obtain rfl := List.mem_singleton.1 new
      exact numbered
  ticketed holding member := by
    rcases List.mem_append.1 member with old | new
    · exact linked.ticketed holding old
    · obtain rfl := List.mem_singleton.1 new
      exact ticketed
  attached action member := by
    obtain ⟨holding, known, about⟩ := linked.attached action member
    exact ⟨holding, List.mem_append_left _ known, about⟩
  actionIds := linked.actionIds
  actionKeys := linked.actionKeys

/-- Commands keep the links, and open requests only for tickets that are there. -/
theorem commanded (linked : ledger.Linked taken) (few : taken ≤ more) (commanded : ledger.Commanded after) :
    after.Linked more := by
  have evolves := commanded.evolves
  have tickets := commanded.tickets
  cases commanded with
  | nothing => exact linked.later few evolves (fun holding member => ⟨holding, member, .refl _⟩) tickets rfl
  | registered mark draft fresh =>
      exact linked.later few evolves (fun holding member => ⟨holding, member, .refl _⟩) tickets rfl
  | approved mark member submittable =>
      exact linked.later few evolves (fun holding member => ⟨holding, member, .refl _⟩) tickets rfl
  | opened request admits =>
      obtain ⟨mark, here, sameTicket, -⟩ := admits.ticket
      have entered := linked.enter admits.numbered (List.mem_map.2 ⟨mark, here, sameTicket⟩)
      refine entered.later few ((Evolves.refl _).congr rfl rfl) (fun holding member => ⟨holding, member, .refl _⟩) ?_ rfl
      rw [tell_ids]
      exact fun _ within => within

/-- A new action on a request that is there keeps the links. -/
theorem append (linked : ledger.Linked taken) {action : Action} {holding : Holding}
    (member : holding ∈ ledger.requests) (about : holding.request.id = action.requestId)
    (numbered : action.id = idText "ACT" (taken + 1))
    (keyed : action.key = Action.keyOf action.requestId action.role action.decision action.id) :
    (ledger.append action).Linked (taken + 1) where
  requestIds := linked.requestIds
  ticketed := linked.ticketed
  attached other within := by
    rcases List.mem_append.1 within with old | new
    · exact linked.attached other old
    · obtain rfl := List.mem_singleton.1 new
      exact ⟨holding, member, about⟩
  actionIds other within := by
    rcases List.mem_append.1 within with old | new
    · obtain ⟨number, before, known⟩ := linked.actionIds other old
      exact ⟨number, Nat.le_succ_of_le before, known⟩
    · obtain rfl := List.mem_singleton.1 new
      exact ⟨taken + 1, Nat.le_refl _, numbered⟩
  actionKeys other within := by
    rcases List.mem_append.1 within with old | new
    · exact linked.actionKeys other old
    · obtain rfl := List.mem_singleton.1 new
      exact keyed

end Linked

end Ledger

end Countersign
