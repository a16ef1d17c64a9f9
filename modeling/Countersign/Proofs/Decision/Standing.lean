/-
Module: Countersign.Proofs.Decision.Standing
Purpose: Ledgers in which every ticket stands as its requests do, and what keeps them so.
Main exports: TicketStatus.Agrees, Ledger.statusesOf, Ledger.Agreed, Ledger.Agreed.commanded,
  Ledger.Agreed.decide
-/
import Countersign.Proofs.Ledger.Evolution

namespace Countersign

/-!
The requests of a ticket are rejected one after the other, until one of them is pending or approved, and the
ticket stands as the last of them. Opening a request and telling the ticket so keeps this, since a ticket has at
most one pending request. So does deciding the pending request once the ticket was told of the decision.
-/

/-- A ticket stands as its requests do, the earliest first. A ticket that needs no approval is approved without
a request. -/
def TicketStatus.Agrees : TicketStatus → List ApprovalStatus → Prop
  | draft, statuses => statuses = []
  | pending, statuses => ∃ earlier, statuses = earlier ++ [.pending] ∧ ∀ status ∈ earlier, status = .rejected
  | rejected, statuses => statuses ≠ [] ∧ ∀ status ∈ statuses, status = .rejected
  | approved, statuses => ∃ earlier, (∀ status ∈ earlier, status = .rejected) ∧
      (statuses = earlier ∨ statuses = earlier ++ [.approved])

namespace TicketStatus.Agrees

variable {status : TicketStatus} {statuses : List ApprovalStatus}

/-- Only a ticket that is pending has a pending request. -/
theorem eq_pending (agrees : status.Agrees statuses) (within : .pending ∈ statuses) : status = pending := by
  have rejected_only {others : List ApprovalStatus} (all : ∀ other ∈ others, other = .rejected) :
      .pending ∉ others := fun inside => by cases all _ inside
  cases status with
  | pending => rfl
  | draft =>
      obtain rfl : statuses = [] := agrees
      cases within
  | rejected => exact absurd within (rejected_only agrees.2)
  | approved =>
      obtain ⟨earlier, all, rfl | rfl⟩ := agrees
      · exact absurd within (rejected_only all)
      · rcases List.mem_append.mp within with early | last
        · exact absurd early (rejected_only all)
        · cases List.mem_singleton.mp last

/-- A ticket that is neither approved nor pending has rejected requests at most. -/
theorem all_rejected (agrees : status.Agrees statuses) (open_ : status ≠ approved)
    (settled : .pending ∉ statuses) : ∀ other ∈ statuses, other = .rejected := by
  cases status with
  | draft =>
      obtain rfl : statuses = [] := agrees
      intro other within
      cases within
  | pending =>
      obtain ⟨earlier, rfl, -⟩ := agrees
      exact absurd (by simp) settled
  | rejected => exact agrees.2
  | approved => exact absurd rfl open_

/-- A request that was pending is decided, and the ticket is told so. -/
theorem decide (agrees : pending.Agrees statuses) {decision : ApprovalStatus}
    (terminal : decision.isTerminal = true) :
    decision.ticketStatus.Agrees
      (statuses.map fun status => if status = .pending then decision else status) := by
  obtain ⟨earlier, rfl, all⟩ := agrees
  have kept : (earlier.map fun status => if status = .pending then decision else status) = earlier := by
    refine (List.map_congr_left fun status within => ?_).trans (List.map_id _)
    rw [all status within]
    rfl
  rw [List.map_append, kept, List.map_singleton, if_pos rfl]
  cases decision with
  | pending => cases terminal
  | approved => exact ⟨earlier, all, Or.inr rfl⟩
  | rejected =>
      refine ⟨by simp, fun status within => ?_⟩
      rcases List.mem_append.mp within with early | last
      · exact all status early
      · exact List.mem_singleton.mp last

end TicketStatus.Agrees

namespace Ledger

/-- The tickets and the statuses of all requests, in the order in which they were opened. -/
def standings (ledger : Ledger) : List (String × ApprovalStatus) :=
  ledger.requests.map fun holding => (holding.request.ticketId, holding.request.status)

/-- The statuses of the requests of a ticket. -/
def statusesOf (ledger : Ledger) (ticketId : String) : List ApprovalStatus :=
  (ledger.standings.filter fun standing => standing.1 == ticketId).map Prod.snd

/-- A ledger in which every ticket stands as its requests do, and every request has a ticket. -/
structure Agreed (ledger : Ledger) : Prop where
  agrees : ∀ mark ∈ ledger.tickets, mark.status.Agrees (ledger.statusesOf mark.id)
  known : ∀ standing ∈ ledger.standings, ∃ mark ∈ ledger.tickets, mark.id = standing.1

variable {ledger after : Ledger} {id : String} {holding : Holding} {mark : TicketMark}

theorem mem_standings (member : holding ∈ ledger.requests) :
    (holding.request.ticketId, holding.request.status) ∈ ledger.standings :=
  List.mem_map.2 ⟨holding, member, rfl⟩

theorem mem_statusesOf {status : ApprovalStatus} :
    status ∈ ledger.statusesOf id ↔
      ∃ holding ∈ ledger.requests, holding.request.ticketId = id ∧ holding.request.status = status := by
  simp [statusesOf, standings]

/-- A ticket has at most one pending request. -/
theorem Sound.eq_of_pending {other : Holding} (sound : ledger.Sound) (one : holding ∈ ledger.requests)
    (two : other ∈ ledger.requests) (same : holding.request.ticketId = other.request.ticketId)
    (waits : holding.request.status = .pending) (waitsToo : other.request.status = .pending) :
    holding = other := by
  apply List.inj_on_of_nodup_map sound.activeKeys one two
  simp [Holding.key, Request.activeKey, waits, waitsToo, same, ApprovalStatus.isTerminal]

namespace Agreed

/-- Whether tickets and requests agree does not depend on leases and on the trail. -/
theorem congr (agreed : ledger.Agreed) (standings : after.standings = ledger.standings)
    (tickets : after.tickets = ledger.tickets) : after.Agreed := by
  constructor
  · rw [tickets]
    intro mark member
    rw [statusesOf, standings]
    exact agreed.agrees mark member
  · rw [tickets, standings]
    exact agreed.known

/-- Telling a ticket keeps the agreement when the ticket then stands as its requests do. -/
theorem tell (others : ∀ mark ∈ ledger.tickets, mark.id ≠ id → mark.status.Agrees (ledger.statusesOf mark.id))
    (known : ∀ standing ∈ ledger.standings, ∃ mark ∈ ledger.tickets, mark.id = standing.1)
    {status : TicketStatus} (here : status.Agrees (ledger.statusesOf id)) :
    (ledger.tell id status).Agreed := by
  constructor
  · intro told member
    obtain ⟨mark, before, rfl⟩ := mem_tell.1 member
    split
    · next same => exact same ▸ here
    · next other => exact others mark before other
  · intro standing within
    obtain ⟨mark, member, same⟩ := known standing within
    refine ⟨_, mem_tell.2 ⟨mark, member, rfl⟩, ?_⟩
    split <;> exact same

/-- A ticket with a pending request is pending. -/
theorem status_eq_pending (agreed : ledger.Agreed) (member : holding ∈ ledger.requests)
    (waits : holding.request.status = .pending) (there : mark ∈ ledger.tickets)
    (same : mark.id = holding.request.ticketId) : mark.status = .pending :=
  (agreed.agrees mark there).eq_pending (mem_statusesOf.2 ⟨holding, member, same.symm, waits⟩)

/-! ### Commands -/

theorem registered (agreed : ledger.Agreed) (draft : mark.status = .draft)
    (fresh : ∀ other ∈ ledger.tickets, other.id ≠ mark.id) : (ledger.register mark).Agreed := by
  constructor
  · intro other member
    rcases List.mem_append.mp member with old | new
    · exact agreed.agrees other old
    · obtain rfl := List.mem_singleton.mp new
      have none : ledger.statusesOf other.id = [] := by
        rw [List.eq_nil_iff_forall_not_mem]
        intro status within
        obtain ⟨holding, known, same, -⟩ := mem_statusesOf.1 within
        obtain ⟨earlier, there, about⟩ := agreed.known _ (mem_standings known)
        exact fresh earlier there (about.trans same)
      rw [draft]
      exact none
  · intro standing within
    obtain ⟨known, member, same⟩ := agreed.known standing within
    exact ⟨known, List.mem_append_left _ member, same⟩

theorem opened {request : Request} (agreed : ledger.Agreed)
    (admits : ledger.Admits request) :
    ((ledger.enter request).tell request.ticketId .pending).Agreed := by
  have standings : (ledger.enter request).standings =
      ledger.standings ++ [(request.ticketId, request.status)] := by
    simp [Ledger.standings, enter]
  have unchanged {other : String} (different : other ≠ request.ticketId) :
      (ledger.enter request).statusesOf other = ledger.statusesOf other := by
    simp [statusesOf, standings, List.filter_append, Ne.symm different]
  obtain ⟨mark, member, same, open_⟩ := admits.ticket
  refine tell (fun other there different => ?_) ?_ ?_
  · rw [unchanged different]
    exact agreed.agrees other there
  · intro standing within
    rw [standings] at within
    rcases List.mem_append.mp within with old | new
    · exact agreed.known standing old
    · obtain rfl := List.mem_singleton.mp new
      exact ⟨mark, member, same⟩
  · have settled : .pending ∉ ledger.statusesOf mark.id := by
      intro within
      obtain ⟨holding, known, about, waits⟩ := mem_statusesOf.1 within
      apply admits.freshKey holding known
      simp [Holding.key, Request.activeKey, waits, ApprovalStatus.isTerminal, about, same]
    refine ⟨ledger.statusesOf request.ticketId, ?_, ?_⟩
    · simp [statusesOf, standings, List.filter_append, admits.pending]
    · rw [← same]
      exact (agreed.agrees mark member).all_rejected open_ settled

theorem approved (agreed : ledger.Agreed) (member : mark ∈ ledger.tickets)
    (submittable : mark.status.isSubmittable = true) : (ledger.tell mark.id .approved).Agreed := by
  apply tell (fun other there _ => agreed.agrees other there) agreed.known
  have agrees := agreed.agrees mark member
  refine ⟨ledger.statusesOf mark.id, ?_, Or.inl rfl⟩
  cases standing : mark.status with
  | draft =>
      rw [standing] at agrees
      have none : ledger.statusesOf mark.id = [] := agrees
      simp [none]
  | rejected =>
      rw [standing] at agrees
      exact agrees.2
  | pending => rw [standing] at submittable; cases submittable
  | approved => rw [standing] at submittable; cases submittable

/-- Commands keep tickets and requests in agreement. -/
theorem commanded (agreed : ledger.Agreed) (commanded : ledger.Commanded after) :
    after.Agreed := by
  cases commanded with
  | nothing => exact agreed
  | registered mark draft fresh => exact agreed.registered draft fresh
  | opened request admits => exact agreed.opened admits
  | approved mark member submittable => exact agreed.approved member submittable

/-! ### Decisions -/

/-- A decision replaces the one pending status of its ticket. -/
theorem standings_move (sound : ledger.Sound) (member : holding ∈ ledger.requests)
    (waits : holding.request.status = .pending) (status : ApprovalStatus) (time : Moment)
    (releasing : Bool) :
    (ledger.move holding.request.id status time releasing).standings =
      ledger.standings.map fun standing =>
        if standing = (holding.request.ticketId, .pending) then (holding.request.ticketId, status)
        else standing := by
  simp only [standings, move, onRequest, List.map_map]
  apply List.map_congr_left
  intro other known
  simp only [Function.comp_apply]
  by_cases here : other.request.id = holding.request.id
  · obtain rfl := sound.eq_of_id known member here
    simp [Holding.moved, Request.moved, waits]
  · have apart : (other.request.ticketId, other.request.status) ≠
        (holding.request.ticketId, .pending) := by
      intro same
      obtain ⟨ticket, waitsToo⟩ := Prod.mk.inj same
      exact here (congrArg (·.request.id) (sound.eq_of_pending known member ticket waitsToo waits))
    rw [if_neg here, if_neg apart]

theorem statusesOf_move (sound : ledger.Sound) (member : holding ∈ ledger.requests)
    (waits : holding.request.status = .pending) (status : ApprovalStatus) (time : Moment)
    (releasing : Bool) (ticketId : String) :
    (ledger.move holding.request.id status time releasing).statusesOf ticketId =
      if ticketId = holding.request.ticketId then
        (ledger.statusesOf ticketId).map fun other => if other = .pending then status else other
      else ledger.statusesOf ticketId := by
  rw [statusesOf, statusesOf, standings_move sound member waits]
  induction ledger.standings with
  | nil => simp
  | cons standing rest ih =>
      obtain ⟨ticket, stands⟩ := standing
      by_cases about : ticket = ticketId
      · subst about
        by_cases here : ticket = holding.request.ticketId
        · subst here
          simp only [if_true] at ih
          by_cases open_ : stands = .pending <;> simp [open_, ih]
        · simp only [if_neg here] at ih
          simp [here, ih]
      · by_cases here : (ticket, stands) = (holding.request.ticketId, ApprovalStatus.pending)
        · obtain ⟨rfl, rfl⟩ := Prod.mk.inj here
          simpa [about] using ih
        · simpa [here, about] using ih

/-- Deciding the pending request of a ticket and telling the ticket so keeps them in agreement. -/
theorem decide (agreed : ledger.Agreed) (sound : ledger.Sound) (member : holding ∈ ledger.requests)
    (waits : holding.request.status = .pending) {status : ApprovalStatus}
    (terminal : status.isTerminal = true) (time : Moment) (releasing : Bool) :
    ((ledger.move holding.request.id status time releasing).tell holding.request.ticketId
      status.ticketStatus).Agreed := by
  obtain ⟨mark, there, same⟩ := agreed.known _ (mem_standings member)
  have agrees := agreed.agrees mark there
  rw [agreed.status_eq_pending member waits there same, same] at agrees
  refine tell (fun other elsewhere different => ?_) ?_ ?_
  · rw [statusesOf_move sound member waits, if_neg different]
    exact agreed.agrees other elsewhere
  · intro standing within
    rw [standings_move sound member waits] at within
    obtain ⟨before, known, rfl⟩ := List.mem_map.mp within
    split
    · exact ⟨mark, there, same⟩
    · exact agreed.known before known
  · rw [statusesOf_move sound member waits, if_pos rfl]
    exact agrees.decide terminal

/-- A request that stays pending changes nothing. -/
theorem wait (agreed : ledger.Agreed) (sound : ledger.Sound) (member : holding ∈ ledger.requests)
    (waits : holding.request.status = .pending) (time : Moment) (releasing : Bool) :
    (ledger.move holding.request.id .pending time releasing).Agreed := by
  refine agreed.congr ?_ rfl
  rw [standings_move sound member waits]
  refine (List.map_congr_left fun standing _ => ?_).trans (List.map_id _)
  split
  · next same => rw [same]; rfl
  · rfl

end Agreed

end Ledger

end Countersign
