/-
Module: Countersign.Proofs.Ledger.Tickets
Purpose: What registering tickets and changing their status does to the ledger.
Main exports: Ledger.register, Ledger.tell, Ledger.mem_tell, Ledger.FirstTicket, TicketStore.of_exec_get,
  TicketStore.exec_add_cases, TicketStore.exec_setStatus_first, Approval.exec_tellTicket
-/
import Countersign.Approval.Opening
import Countersign.Proofs.Ledger.Basic
import Countersign.Proofs.Schema.Tickets
import Countersign.Proofs.Service.Endings

namespace Countersign

open Service

/-!
A ticket is known to the ledger by its id and its status, and its document is one that is read as a ticket, so
giving it a status does not fail where the store can be reached. A ticket is asked for by a value that need not
be a text, so what is found is told of as the first ticket that meets the query.
-/

/-- A ticket that may be submitted is not approved. -/
theorem TicketStatus.ne_approved_of_isSubmittable {status : TicketStatus} (submittable : status.isSubmittable = true) :
    status ≠ .approved := by
  rintro rfl
  cases submittable

namespace Ledger

/-- Put a ticket behind all others. -/
def register (ledger : Ledger) (mark : TicketMark) : Ledger :=
  { ledger with tickets := ledger.tickets ++ [mark] }

/-- Give the ticket of an id a status. -/
def tell (ledger : Ledger) (id : String) (status : TicketStatus) : Ledger :=
  { ledger with
    tickets := ledger.tickets.map fun mark => if mark.id = id then { mark with status } else mark }

theorem mem_tell {ledger : Ledger} {id : String} {status : TicketStatus} {told : TicketMark} :
    told ∈ (ledger.tell id status).tickets ↔
      ∃ mark ∈ ledger.tickets, (if mark.id = id then { mark with status } else mark) = told := by
  simp [tell]

/-- Telling a ticket does not change which tickets there are. -/
theorem tell_ids (ledger : Ledger) (id : String) (status : TicketStatus) :
    (ledger.tell id status).tickets.map (·.id) = ledger.tickets.map (·.id) := by
  rw [tell, List.map_map]
  apply List.map_congr_left
  intro mark _
  rw [Function.comp_apply]
  split <;> rfl

theorem Sound.tell {ledger : Ledger} (sound : ledger.Sound) (id : String) (status : TicketStatus) :
    (ledger.tell id status).Sound := by
  refine ⟨sound.requestIds, sound.activeKeys, sound.actionIds, sound.actionKeys, ?_⟩
  rw [tell_ids]
  exact sound.ticketIds

/-- A ticket that is not there cannot be told anything. -/
theorem tell_of_missing {ledger : Ledger} {id : String} (missing : ∀ mark ∈ ledger.tickets, mark.id ≠ id)
    (status : TicketStatus) : ledger.tell id status = ledger := by
  have same : (ledger.tickets.map fun mark => if mark.id = id then { mark with status } else mark) =
      ledger.tickets := by
    refine (List.map_congr_left fun mark within => ?_).trans (List.map_id _)
    simp [missing mark within]
  rw [tell, same]

/-- The first ticket whose document meets a query. -/
structure FirstTicket (ledger : Ledger) (store : Store) (query : Query) (mark : TicketMark)
    (document : Document) where
  front : List TicketMark
  back : List TicketMark
  before : List Document
  behind : List Document
  entries : ledger.tickets = front ++ mark :: back
  documents : store.tickets = before ++ document :: behind
  inFront : List.Forall₂ TicketMark.ShownBy front before
  shown : mark.ShownBy document
  inBack : List.Forall₂ TicketMark.ShownBy back behind
  passed : ∀ other ∈ before, query other = .ok false
  met : query document = .ok true
  found : Table.find? store.tickets query = .ok (some document)

namespace FirstTicket

variable {ledger : Ledger} {store : Store} {query : Query} {mark : TicketMark} {document : Document}

theorem member (first : ledger.FirstTicket store query mark document) : mark ∈ ledger.tickets := by
  rw [first.entries]
  simp

/-- A ticket that is found by an id has that id. -/
theorem id_eq {id : String} (first : ledger.FirstTicket store (TicketStore.withId (.text id)) mark document) :
    mark.id = id := by
  have met := first.met
  rw [TicketStore.withId, Query.decides_text] at met
  simpa [Document.meets, Fields.getD, first.shown.id] using met

/-- Telling a ticket changes its entry alone. -/
theorem tickets_tell (first : ledger.FirstTicket store query mark document) (sound : ledger.Sound)
    (status : TicketStatus) :
    (ledger.tell mark.id status).tickets = first.front ++ { mark with status } :: first.back := by
  have unique := sound.ticketIds
  rw [first.entries] at unique
  have alone (entries : List TicketMark) (within : ∀ other ∈ entries, other ∈ first.front ++ first.back) :
      (entries.map fun other => if other.id = mark.id then { other with status } else other) =
        entries := by
    refine (List.map_congr_left fun other inside => ?_).trans (List.map_id _)
    simp [ne_of_nodup unique other (within other inside)]
  simp only [tell, first.entries, List.map_append, List.map_cons, if_true]
  rw [alone first.front fun other inside => List.mem_append_left _ inside,
    alone first.back fun other inside => List.mem_append_right _ inside]

end FirstTicket

/-- A ticket that was found is one of the ledger. -/
theorem ShownBy.firstTicket {ledger : Ledger} {store : Store} {query : Query} {document : Document}
    (shown : ledger.ShownBy store) (found : Table.find? store.tickets query = .ok (some document)) :
    ∃ mark, Nonempty (ledger.FirstTicket store query mark document) := by
  obtain ⟨before, behind, documents, passed, met⟩ := Table.split_of_find? found
  have related := shown.tickets
  rw [documents] at related
  obtain ⟨front, mark, back, entries, inFront, here, inBack⟩ := split_of_documents related
  exact ⟨mark, ⟨front, back, before, behind, entries, documents, inFront, here, inBack, passed, met, found⟩⟩

end Ledger

/-- The store keeps a ticket that it takes. -/
theorem Ticket.kept_shownBy {ticket : Ticket} (whole : ∀ company, ticket.company = some company → company.IsWhole)
    (admitted : Document.admissionFault? ticket.document = none) :
    (⟨ticket.id, ticket.status⟩ : TicketMark).ShownBy (Document.kept ticket.document) := by
  have read {name t : String} (known : Fields.get? ticket.document name = some (.text t)) :
      Fields.get? (Document.kept ticket.document) name = some (.text t) := by
    rw [Document.kept, Fields.get?_storedFields, known]
    rfl
  obtain ⟨again, reads, -⟩ := Ticket.exists_check_document whole
  refine ⟨⟨again, reads⟩, read ?_, read ?_, read ?_,
    Value.storeFault?_text_iff.1 (Document.storeFault?_of_admitted "ticket_id" admitted ?_)⟩ <;>
    simp [Ticket.document, Ticket.record, Ticket.body]

namespace TicketStore

variable {ledger : Ledger} {s : ServiceState} {mark : TicketMark} {document : Document}

/-- What gives a ticket a status. -/
def statusFields (status : TicketStatus) (time : Moment) : Fields :=
  [("status", .text status.name), ("updated_at", .moment time)]

/-- A document of a ticket that was given a status. -/
def toldDocument (document : Document) (status : TicketStatus) (time : Moment) : Document :=
  Fields.putAll document (Value.storedFields (statusFields status time))

theorem get?_toldDocument_of_ne {status : TicketStatus} {time : Moment} {name : String}
    (other : name ∉ ["status", "updated_at"]) :
    Fields.get? (toldDocument document status time) name = Fields.get? document name := by
  simp only [List.mem_cons, List.not_mem_nil, or_false, not_or] at other
  simp [toldDocument, statusFields, Value.storedFields, Fields.putAll, Fields.get?_put,
    Ne.symm other.1, Ne.symm other.2]

/-- Giving a ticket a status stops nowhere, and the document then keeps the ticket in that status. -/
theorem statusFields_shown (shown : mark.ShownBy document) (status : TicketStatus) (clock : Int) :
    Change.setAll (statusFields status (Moment.ofClock clock)) document =
        ⟨toldDocument document status (Moment.ofClock clock), none⟩ ∧
      ({ mark with status } : TicketMark).ShownBy
        (toldDocument document status (Moment.ofClock clock)) := by
  have storable : Change.StorableAll (statusFields status (Moment.ofClock clock)) := by
    intro field within
    simp only [statusFields, List.mem_cons, List.not_mem_nil, or_false] at within
    rcases within with rfl | rfl
    · rw [Document.fieldFault?_of_nameKept (Document.nameKept_of_mem (by simp))]
      cases status <;> exact Value.storeFault?_text_iff.2 (by decide)
    · rw [Document.fieldFault?_of_nameKept (Document.nameKept_of_mem (by simp))]
      exact Value.storeFault?_moment (Moment.leavesCalendar_ofClock clock)
  have stands : Fields.get? (toldDocument document status (Moment.ofClock clock)) "status" =
      some (.text status.name) := by
    simp [toldDocument, statusFields, Value.storedFields, Value.stored, Fields.putAll, Fields.get?_put]
  have updated : Fields.get? (toldDocument document status (Moment.ofClock clock)) "updated_at" =
      some (.moment (Moment.ofClock clock).stored) := by
    simp [toldDocument, statusFields, Value.storedFields, Value.stored, Fields.putAll, Fields.get?_put]
  refine ⟨Change.setAll_eq storable document, ?_, ?_, ?_, stands, shown.wholeId⟩
  · exact Ticket.exists_check_congr shown.reads get?_toldDocument_of_ne stands updated
  · exact (get?_toldDocument_of_ne (by decide)).trans shown.id
  · exact (get?_toldDocument_of_ne (by decide)).trans shown.identity

/-! ### Reading -/

theorem exec_get_down (down : s.down = true) (id : Value) :
    exec (get id) s = (.error .storeDown, s) := by
  rw [get, exec_bind_error (exec_findOne_down down)]

/-- A ticket that was read is the first that the query for its id finds, and reading changes nothing. -/
theorem of_exec_get {id : Value} {s' : ServiceState} {outcome : Except Failure Ticket}
    (shown : ledger.ShownBy s.store) (ran : exec (get id) s = (outcome, s')) :
    s' = s ∧ ∀ ticket, outcome = .ok ticket → s.down = false ∧
      ∃ mark document, Nonempty (ledger.FirstTicket s.store (withId id) mark document) ∧
        mark.id = ticket.id ∧ mark.status = ticket.status := by
  rcases Bool.eq_false_or_eq_true s.down with down | up
  · rw [exec_get_down down] at ran
    cases ran
    exact ⟨rfl, fun ticket same => by cases same⟩
  rw [get, exec_bind, exec_findOne up rfl] at ran
  cases looked : (s.store.table .tickets).find? (withId id) with
  | error fault =>
      rw [looked] at ran
      cases ran
      exact ⟨rfl, fun ticket same => by cases same⟩
  | ok found =>
      rw [looked] at ran
      cases found with
      | none =>
          cases ran
          exact ⟨rfl, fun ticket same => by cases same⟩
      | some document =>
          obtain ⟨mark, ⟨first⟩⟩ := shown.firstTicket looked
          simp only [exec_found_ok] at ran
          cases checked : Ticket.check document with
          | refused faults =>
              rw [checked] at ran
              cases ran
              exact ⟨rfl, fun ticket same => by cases same⟩
          | accepted ticket =>
              rw [checked] at ran
              cases ran
              refine ⟨rfl, fun found same => ?_⟩
              cases same
              obtain ⟨known, status, -⟩ := Ticket.check_eq_accepted_iff.1 checked
              have id := Fields.required_text_iff.1 known
              refine ⟨up, mark, document, ⟨first⟩, ?_, ?_⟩
              · rw [first.shown.id] at id
                exact Value.text.inj (Option.some.inj id)
              · rw [Fields.optional_of_get? first.shown.status, Reader.choice_ticketStatus] at status
                exact Checked.accepted.inj status

/-! ### Changing -/

/-- A ticket that is there is given the status, and read with it. It is then still the first that is found. -/
theorem exec_setStatus_told (up : s.down = false) (shown : ledger.ShownBy s.store) {id : Value}
    (first : ledger.FirstTicket s.store (withId id) mark document) (status : TicketStatus) :
    ∃ ticket table journal, exec (setStatus id status) s =
        (.ok ticket, { s with store := s.store.setTable .tickets table, journal }) ∧
      (ledger.tell mark.id status).ShownBy (s.store.setTable .tickets table) ∧
      ∃ after, Nonempty ((ledger.tell mark.id status).FirstTicket (s.store.setTable .tickets table) (withId id)
        { mark with status } after) := by
  obtain ⟨made, changed⟩ := statusFields_shown first.shown status s.clock
  have related := related_replace first.inFront changed first.inBack
  have entries := first.tickets_tell shown.sound status
  have unique := (shown.sound.tell mark.id status).ticketIds
  rw [entries] at unique
  have split : (s.store.table .tickets).updateFirst Collection.tickets.uniqueKeys (withId id)
      (Change.setAll (statusFields status (Moment.ofClock s.clock))) =
      .ok (Table.changeOne Collection.tickets.uniqueKeys
        (Change.setAll (statusFields status (Moment.ofClock s.clock))) first.before document
        first.behind) := by
    change Table.updateFirst _ s.store.tickets _ _ = _
    rw [first.documents]
    exact Table.updateFirst_split first.passed first.met _ _
  -- The query looks at the id alone, which telling leaves as it is, so the same document is found again.
  have alike : withId id (toldDocument document status (Moment.ofClock s.clock)) = withId id document :=
    Query.field_congr (by decide +kernel) (by decide) (by decide) (get?_toldDocument_of_ne (by decide)) id
  rcases TicketMark.keyed.changeOne_cases first.inFront first.inBack first.shown changed rfl made with
    ⟨-, outcome⟩ | ⟨⟨other, within, key, known, shared⟩, -⟩
  · have updated := exec_update_changed up (split.trans (congrArg Except.ok outcome))
    obtain ⟨journal, noted⟩ := exec_note .info .ticketStore
      s!"Ticket {id.display} is now {status.name}" [("ticket_id", id), ("status", .text status.name)]
      false { s with store := s.store.setTable .tickets (first.before ++
        toldDocument document status (Moment.ofClock s.clock) :: first.behind) }
    obtain ⟨ticket, read⟩ := changed.reads
    refine ⟨ticket, first.before ++
      toldDocument document status (Moment.ofClock s.clock) :: first.behind, journal, ?_, ?_⟩
    · rw [setStatus, exec_bind, exec_now]
      apply (exec_bind_ok updated _).trans
      apply (exec_bind_ok noted (fun _ => accept
        (Ticket.check (toldDocument document status (Moment.ofClock s.clock))))).trans
      rw [read, exec_accept_accepted]
    · refine ⟨⟨shown.requests, shown.actions, ?_, shown.sound.tell mark.id status⟩, _, ⟨first.front, first.back,
        first.before, first.behind, entries, rfl, first.inFront, changed, first.inBack, first.passed, ?_, ?_⟩⟩
      · rw [entries]
        exact related
      · exact alike.trans first.met
      · exact Table.find?_replace first.passed first.met alike (first.documents ▸ first.found)
  · obtain rfl := List.mem_singleton.1 known
    exact absurd shared (ne_of_nodup unique other within)

theorem exec_setStatus_first (up : s.down = false) (shown : ledger.ShownBy s.store) {id : Value}
    (first : ledger.FirstTicket s.store (withId id) mark document) (status : TicketStatus) :
    ∃ ticket table journal, exec (setStatus id status) s =
        (.ok ticket, { s with store := s.store.setTable .tickets table, journal }) ∧
      (ledger.tell mark.id status).ShownBy (s.store.setTable .tickets table) := by
  obtain ⟨ticket, table, journal, ran, shows, -⟩ := exec_setStatus_told up shown first status
  exact ⟨ticket, table, journal, ran, shows⟩

/-- No document is that of a ticket that is not there. -/
theorem unmet_of_missing (shown : ledger.ShownBy s.store) {id : String}
    (missing : ∀ mark ∈ ledger.tickets, mark.id ≠ id) :
    ∀ document ∈ s.store.tickets, Document.meets document "ticket_id" (.text id) = false := by
  intro document within
  obtain ⟨mark, inside, here⟩ := exists_of_mem_documents shown.tickets within
  simp only [Document.meets, Fields.getD, here.id, Option.getD_some, Value.meets_text]
  simpa using missing mark inside

/-- A ticket that is not there is missed. -/
theorem exec_setStatus_missing (up : s.down = false) (shown : ledger.ShownBy s.store) {id : String}
    (missing : ∀ mark ∈ ledger.tickets, mark.id ≠ id) (status : TicketStatus) :
    exec (setStatus (.text id) status) s =
      (.error (.refused (.ticketMissing (.text id))), s) := by
  have looked := Table.updateFirst_unmet (Query.decides_text "ticket_id" id) (unmet_of_missing shown missing)
    Collection.tickets.uniqueKeys
    (Change.setAll (statusFields status (Moment.ofClock s.clock)))
  rw [setStatus, exec_bind, exec_now]
  exact exec_bind_ok (exec_update_unmet .tickets up looked) _

theorem exec_get_missing (up : s.down = false) (shown : ledger.ShownBy s.store) {id : String}
    (missing : ∀ mark ∈ ledger.tickets, mark.id ≠ id) :
    exec (get (.text id)) s = (.error (.refused (.ticketMissing (.text id))), s) := by
  have looked : (s.store.table .tickets).find? (withId (.text id)) = .ok none := by
    refine (Table.find?_eq (Query.decides_text "ticket_id" id) _).trans (congrArg Except.ok (List.find?_eq_none.2 ?_))
    exact fun document within => by simp [unmet_of_missing shown missing document within]
  rw [get, exec_bind_ok (exec_findOne up looked)]
  rfl

theorem exec_setStatus_down (down : s.down = true) (id : Value) (status : TicketStatus) :
    exec (setStatus id status) s = (.error .storeDown, s) := by
  rw [setStatus, exec_bind, exec_now]
  exact exec_bind_error (exec_update_down down _) _

/-- A ticket that is there is found by its id. -/
theorem firstTicket_of_mem (shown : ledger.ShownBy s.store) (member : mark ∈ ledger.tickets) :
    ∃ document, Nonempty (ledger.FirstTicket s.store (withId (.text mark.id)) mark document) := by
  obtain ⟨front, back, before, document, behind, entries, documents, inFront, here, inBack⟩ :=
    split_of_mem shown.tickets member
  have unique := shown.sound.ticketIds
  rw [entries] at unique
  have passed : ∀ other ∈ before, ¬ Document.meets other "ticket_id" (.text mark.id) = true := by
    intro other within
    obtain ⟨earlier, inside, shows⟩ := exists_of_mem_documents inFront within
    have apart := ne_of_nodup unique earlier (List.mem_append_left _ inside)
    simp only [Document.meets, Fields.getD, shows.id, Option.getD_some, Value.meets_text]
    simpa using apart
  have met : Document.meets document "ticket_id" (.text mark.id) = true := by
    simp [Document.meets, Fields.getD, here.id]
  have decides := Query.decides_text "ticket_id" mark.id
  refine ⟨document, ⟨front, back, before, behind, entries, documents, inFront, here, inBack, fun other within => ?_, ?_,
    ?_⟩⟩
  · exact (decides other).trans (congrArg Except.ok (Bool.eq_false_iff.2 (passed other within)))
  · exact (decides document).trans (congrArg Except.ok met)
  · refine (Table.find?_eq decides _).trans ?_
    rw [documents, List.find?_append, List.find?_eq_none.2 passed, Option.none_or, List.find?_cons, met]

/-- The first ticket that meets a query is got. -/
theorem exec_get_first (up : s.down = false) {id : Value}
    (first : ledger.FirstTicket s.store (withId id) mark document) :
    ∃ ticket, Ticket.check document = .accepted ticket ∧ exec (get id) s = (.ok ticket, s) := by
  obtain ⟨ticket, reads⟩ := first.shown.reads
  refine ⟨ticket, reads, ?_⟩
  rw [get, exec_bind_ok (@exec_findOne .tickets _ _ up _ first.found)]
  dsimp only
  rw [reads, exec_accept_accepted]

/-- A ticket that is there is read as it stands. -/
theorem exec_get_known (up : s.down = false) (shown : ledger.ShownBy s.store) (member : mark ∈ ledger.tickets) :
    ∃ document ∈ s.store.tickets, ∃ ticket, Ticket.check document = .accepted ticket ∧
      exec (get (.text mark.id)) s = (.ok ticket, s) ∧ ticket.id = mark.id ∧ ticket.status = mark.status := by
  obtain ⟨document, ⟨first⟩⟩ := firstTicket_of_mem shown member
  obtain ⟨ticket, reads, ran⟩ := exec_get_first up first
  have within : document ∈ s.store.tickets := by
    rw [first.documents]
    simp
  obtain ⟨known, status, -⟩ := Ticket.check_eq_accepted_iff.1 reads
  refine ⟨document, within, ticket, reads, ran, ?_, ?_⟩
  · have id := Fields.required_text_iff.1 known
    rw [first.shown.id] at id
    exact (Value.text.inj (Option.some.inj id)).symm
  · rw [Fields.optional_of_get? first.shown.status, Reader.choice_ticketStatus] at status
    exact (Checked.accepted.inj status).symm

/-- No two stored tickets have the same id. -/
theorem eq_of_ticketId (shown : ledger.ShownBy s.store) {one two : Document} (first : one ∈ s.store.tickets)
    (second : two ∈ s.store.tickets) (same : Fields.get? one "ticket_id" = Fields.get? two "ticket_id") :
    one = two := by
  have ids : s.store.tickets.map (fun document => Fields.get? document "ticket_id") =
      (ledger.tickets.map (·.id)).map fun id => some (.text id) := by
    have related := shown.tickets
    generalize ledger.tickets = marks, s.store.tickets = documents at related ⊢
    induction related with
    | nil => rfl
    | cons here _ ih => rw [List.map_cons, ih, here.id, List.map_cons, List.map_cons]
  have injective : Function.Injective fun id => some (Value.text id) := fun _ _ alike =>
    Value.text.inj (Option.some.inj alike)
  have distinct := shown.sound.ticketIds.map injective
  rw [← ids] at distinct
  exact List.inj_on_of_nodup_map distinct first second same

/-- A stored ticket is got by its id. -/
theorem exec_get_stored (up : s.down = false) (shown : ledger.ShownBy s.store) {document : Document}
    (member : document ∈ s.store.tickets) {ticket : Ticket} (reads : Ticket.check document = .accepted ticket) :
    exec (get (.text ticket.id)) s = (.ok ticket, s) ∧ ⟨ticket.id, ticket.status⟩ ∈ ledger.tickets := by
  obtain ⟨mark, within, here⟩ := exists_of_mem_documents shown.tickets member
  have id := Fields.required_text_iff.1 (Ticket.check_eq_accepted_iff.1 reads).1
  have named : ticket.id = mark.id := Value.text.inj (Option.some.inj (id.symm.trans here.id))
  obtain ⟨other, inside, found, again, got, same, stands⟩ := exec_get_known up shown within
  have known := Fields.required_text_iff.1 (Ticket.check_eq_accepted_iff.1 again).1
  rw [same] at known
  obtain rfl := eq_of_ticketId shown member inside (here.id.trans known.symm)
  obtain rfl := Checked.accepted.inj (reads.symm.trans again)
  rw [named, stands]
  exact ⟨got, within⟩

/-! ### Adding -/

/-- A ticket that cannot be written, or that the store does not keep. -/
def Unkept (ticket : Ticket) : Prop := ticket.dumpFault? ≠ none ∨ Document.admissionFault? ticket.document ≠ none

/-- A new ticket is put behind all others, with an id of its own, or not stored. -/
theorem exec_add_cases (shown : ledger.ShownBy s.store) {ticket : Ticket}
    (whole : ∀ company, ticket.company = some company → company.IsWhole) :
    (∃ failure, exec (add ticket) s = (.error failure, s) ∧ (failure.Told ∨ Unkept ticket)) ∨
    (∃ table journal,
      exec (add ticket) s =
        (.ok ticket, { s with store := s.store.setTable .tickets table, journal }) ∧
      (∀ mark ∈ ledger.tickets, mark.id ≠ ticket.id) ∧
      (ledger.register ⟨ticket.id, ticket.status⟩).ShownBy (s.store.setTable .tickets table)) := by
  have writable : exec (ensureWritable ticket) s = (.ok (), s) ∨
      ∃ failure, exec (ensureWritable ticket) s = (.error failure, s) ∧ ticket.dumpFault? ≠ none := by
    unfold ensureWritable
    cases ticket.dumpFault? with
    | none => exact Or.inl rfl
    | some fault => cases fault <;> exact Or.inr ⟨_, rfl, by simp⟩
  rcases writable with opened | ⟨failure, failed, unwritten⟩
  case inr => exact Or.inl ⟨failure, by rw [add, exec_bind_error failed], Or.inr (Or.inl unwritten)⟩
  rcases Bool.eq_false_or_eq_true s.down with down | up
  · exact Or.inl ⟨.storeDown, by
      rw [add, exec_bind_ok opened, exec_bind_error (exec_insert_down down _)], Or.inl (.storage rfl)⟩
  cases unfit : Document.admissionFault? ticket.document with
  | some fault =>
      refine Or.inl ⟨.store fault, ?_, Or.inr (Or.inr (by simp [unfit]))⟩
      rw [add, exec_bind_ok opened, exec_bind_error (exec_insert_of_fault .tickets up unfit)]
  | none =>
      rcases TicketMark.keyed.insert_cases shown.tickets unfit (ticket.kept_shownBy whole unfit) with
        ⟨-, made⟩ | ⟨alone, related, made⟩
      · refine Or.inl ⟨.refused (.ticketExists ticket.id), ?_, Or.inl (.refused _)⟩
        rw [add, exec_bind_ok opened, exec_bind_ok (exec_insert_taken .tickets up made)]
        rfl
      · have fresh : ∀ mark ∈ ledger.tickets, mark.id ≠ ticket.id :=
          fun mark within => alone mark within ("ticket_id", TicketMark.id) (List.mem_singleton.2 rfl)
        obtain ⟨journal, noted⟩ := exec_note .info .ticketStore s!"Created ticket: {ticket.id}"
          [("ticket_id", .text ticket.id)] false
          { s with store := s.store.setTable .tickets (s.store.tickets ++ [Document.kept ticket.document]) }
        refine Or.inr ⟨s.store.tickets ++ [Document.kept ticket.document], journal, ?_, fresh,
          shown.requests, shown.actions, related, ?_⟩
        · rw [add, exec_bind_ok opened, exec_bind_ok (exec_insert .tickets up made), if_pos rfl]
          exact exec_bind_ok noted (fun _ => pure ticket)
        · exact ⟨shown.sound.requestIds, shown.sound.activeKeys, shown.sound.actionIds,
            shown.sound.actionKeys, nodup_concat shown.sound.ticketIds fresh⟩

end TicketStore

namespace Approval

variable {ledger : Ledger} {s : ServiceState}

theorem exec_tellTicket_down (down : s.down = true) (request : Request) :
    exec (tellTicket request) s = (.error .storeDown, s) := by
  rw [tellTicket, exec_bind, exec_attempt, TicketStore.exec_setStatus_down down]
  rfl

/-- A store that is up is told of the status of a request's ticket. A ticket that is gone is passed over. -/
theorem exec_tellTicket (up : s.down = false) (shown : ledger.ShownBy s.store) (request : Request) :
    ∃ table journal, exec (tellTicket request) s =
        (.ok (), { s with store := s.store.setTable .tickets table, journal }) ∧
      (ledger.tell request.ticketId request.status.ticketStatus).ShownBy
        (s.store.setTable .tickets table) := by
  by_cases known : ∃ mark ∈ ledger.tickets, mark.id = request.ticketId
  · obtain ⟨mark, member, same⟩ := known
    rw [← same]
    obtain ⟨document, ⟨first⟩⟩ := TicketStore.firstTicket_of_mem shown member
    obtain ⟨ticket, table, journal, ran, shows⟩ :=
      TicketStore.exec_setStatus_first up shown first request.status.ticketStatus
    rw [tellTicket, exec_bind, exec_attempt, ← same, ran]
    exact ⟨table, journal, rfl, shows⟩
  · have missing : ∀ mark ∈ ledger.tickets, mark.id ≠ request.ticketId :=
      fun mark within same => known ⟨mark, within, same⟩
    have missed := TicketStore.exec_setStatus_missing up shown missing request.status.ticketStatus
    rw [Ledger.tell_of_missing missing]
    rw [tellTicket, exec_bind, exec_attempt, missed]
    obtain ⟨journal, noted⟩ := exec_note .warning .workflow
      s!"Ticket {request.ticketId} of approval request {request.id} no longer exists"
      [("ticket_id", .text request.ticketId), ("approval_request_id", .text request.id)] false s
    exact ⟨s.store.tickets, journal, noted, shown⟩

end Approval

end Countersign
