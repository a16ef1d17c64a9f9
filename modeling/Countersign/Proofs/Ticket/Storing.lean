/-
Module: Countersign.Proofs.Ticket.Storing
Purpose: Which facts of a ticket are the same when it is read back from the store.
Main exports: Value.KeepsFact, Ticket.ReadBack.facts_iff, TicketStore.readBack_of_add,
  Routing.readBack_of_register, Routing.registered_facts_iff
-/
import Countersign.Proofs.Calendar.Texts
import Countersign.Proofs.Commands.Changes
import Countersign.Proofs.Ticket.Facts

namespace Countersign

open Service

/-!
The facts of a ticket in hand are built from dates and moments, and those of a ticket that was stored from the texts
that they were written as. The two ways of writing agree on dates, and on all moments but those whose offset is zero or
has seconds. A field that is written in another way is another fact, unless a derived fact of its name is put over it.
-/

namespace Value

/-- A value that is the same fact when it was written: a number that is finite, a moment that both ways of writing spell
alike, or any other value. -/
def KeepsFact : Value → Prop
  | .float x => x.isFinite = true
  | .moment m => m.SpelledAlike
  | _ => True

instance : DecidablePred KeepsFact
  | .float x => inferInstanceAs (Decidable (x.isFinite = true))
  | .moment m => inferInstanceAs (Decidable m.SpelledAlike)
  | .null | .bool _ | .int _ | .text _ | .date _ | .list _ | .record _ => isTrue trivial

end Value

namespace Ticket

/-- How the facts of a name are spelled. -/
def spelled (name : String) : Value → Value :=
  if "transaction_type" = name then normalizeType else if "lme_action_needed" = name then normalizeYesNo else fun v => v

theorem copied?_eq (ticket : Ticket) (name : String) :
    ticket.copied? name = ((ticket.fields.get? name).bind fieldFact?).map (spelled name) := by
  unfold copied? spelled
  dsimp only
  split_ifs
  · rfl
  · rfl
  · exact Option.map_id'.symm

/-- What a moment is written as is spelled as it is, under whatever name. -/
theorem spelled_stamp (name : String) {s : String} (stamp : Text.IsStamp s) (colon : ':' ∈ s.toList) :
    spelled name (.text s) = .text s := by
  have other : ∀ word ∈ ["yes", "true", "1", "no", "false", "0"], Text.lower (Text.strip s) ≠ word := by
    have plain : ∀ word ∈ ["yes", "true", "1", "no", "false", "0"], ':' ∉ word.toList := by decide
    rintro word known rfl
    exact plain _ known (stamp.colon_mem_lower_strip colon)
  simp only [List.forall_mem_cons] at other
  obtain ⟨yes, true_, one, no, false_, zero, -⟩ := other
  unfold spelled
  split_ifs
  · rw [normalizeType, stamp.upper_strip]
  · simp [normalizeYesNo, yes, true_, one, no, false_, zero]
  · rfl

/-- A value is the same fact when it was written and stored, under whatever name, exactly where it keeps its fact. -/
theorem spelled_written_eq_iff (name : String) (v : Value) :
    (fieldFact? v.dumped.stored).map (spelled name) = (fieldFact? v).map (spelled name) ↔ v.KeepsFact := by
  cases v with
  | float x =>
      by_cases finite : x.isFinite = true
      · simp [Value.dumped, Value.stored, fieldFact?, Value.KeepsFact, finite]
      · simp [Value.dumped, Value.stored, fieldFact?, Value.KeepsFact, finite]
  | moment m =>
      have plain := spelled_stamp name m.isStamp_plainText m.colon_mem_plainText
      have full := spelled_stamp name m.isStamp_fullText m.colon_mem_fullText
      simp only [Value.dumped, Value.stored, fieldFact?, Option.map_some, plain, full, Option.some.injEq,
        Value.text.injEq, Value.KeepsFact, m.plainText_eq_fullText_iff]
  | _ => simp [Value.dumped, Value.stored, fieldFact?, Value.KeepsFact]

namespace ReadBack

variable {ticket read : Ticket} (back : ticket.ReadBack read) (unique : ticket.fields.names.Nodup)
  (whole : ∀ name ∈ ticket.fields.names, Text.hasHalf name = false)

include back whole

/-- Where no name is replaced, each field is read as it was written. -/
theorem fields_eq : read.fields = Value.storedFields (Value.dumpedFields ticket.fields) := by
  rw [back.fields, Dump.entries_of_whole]
  intro field member
  refine whole field.1 ?_
  rw [← Value.names_dumpedFields]
  exact List.mem_map_of_mem member

theorem get?_fields (name : String) :
    read.fields.get? name = (ticket.fields.get? name).map fun v => v.dumped.stored := by
  rw [back.fields_eq whole, Fields.get?_storedFields, Fields.get?_dumpedFields, Option.map_map]
  rfl

include unique

/-- The facts of the ticket that is read back are those of the ticket exactly where each field keeps its fact or has a
derived fact of its name put over it. -/
theorem facts_iff : (∀ name, read.facts.get? name = ticket.facts.get? name) ↔
    ∀ field ∈ ticket.fields, field.2.KeepsFact ∨ (ticket.derived? field.1).isSome = true := by
  have again : read.fields.names.Nodup := by
    rw [back.fields_eq whole, Value.names_storedFields, Value.names_dumpedFields]
    exact unique
  have copied (name : String) : ticket.copied? name = read.copied? name ↔
      ∀ v ∈ ticket.fields.get? name, v.KeepsFact := by
    rw [copied?_eq, copied?_eq, back.get?_fields whole]
    cases ticket.fields.get? name with
    | none => simp
    | some v => simpa [eq_comm] using spelled_written_eq_iff name v
  have facts := facts_eq_iff_copied unique again back.status.symm back.rating.symm
  simp only [eq_comm (a := ticket.facts.get? _)] at facts
  rw [facts]
  constructor
  · intro alike field member
    refine (alike field.1).symm.imp_left fun same => (copied field.1).1 same field.2 ?_
    exact Fields.get?_of_mem unique member
  · intro keeps name
    rw [copied]
    cases found : ticket.fields.get? name with
    | none => exact Or.inr nofun
    | some v =>
        refine (keeps (name, v) (Fields.mem_of_get? found)).symm.imp_right fun kept w same => ?_
        obtain rfl := Option.some.inj same
        exact kept

end ReadBack

end Ticket

namespace TicketStore

/-- A ticket whose document has its id alone is got. -/
theorem exec_get_of_alone {s : ServiceState} {table : Table} {document : Document} {id : String} {read : Ticket}
    (up : s.down = false) (there : s.store.tickets = table ++ [document])
    (alone : ∀ other ∈ table, Document.meets other "ticket_id" (.text id) = false)
    (here : Fields.get? document "ticket_id" = some (.text id)) (reads : Ticket.check document = .accepted read) :
    exec (get (.text id)) s = (.ok read, s) := by
  have looked : (s.store.table .tickets).find? (withId (.text id)) = .ok (some document) := by
    rw [show s.store.table .tickets = _ from there]
    exact Table.find?_of_alone alone here
  rw [get, exec_bind_ok (exec_findOne up looked)]
  dsimp only
  rw [reads, exec_accept_accepted]

/-- A ticket that was added, to whatever store, is read back by its id. -/
theorem readBack_of_add {s s' : ServiceState} {ticket added : Ticket}
    (whole : ∀ company, ticket.company = some company → company.IsWhole)
    (ran : exec (add ticket) s = (.ok added, s')) :
    added = ticket ∧ ∃ read, exec (get (.text ticket.id)) s' = (.ok read, s') ∧ ticket.ReadBack read := by
  rw [add] at ran
  obtain ⟨_, between, writable, ran⟩ := exists_of_exec_bind ran
  obtain ⟨inserted, after, made, ran⟩ := exists_of_exec_bind ran
  obtain ⟨read, reads, back⟩ := Ticket.exists_check_document whole
  have id : Fields.get? (Document.kept ticket.document) "ticket_id" = some (.text ticket.id) := by
    rw [Document.kept, Fields.get?_storedFields]
    rfl
  have texts : Table.HasTexts (Document.kept ticket.document) Collection.tickets.uniqueKeys := by
    simp only [Table.HasTexts, Collection.uniqueKeys, List.forall_mem_cons]
    exact ⟨⟨_, id⟩, by simp⟩
  cases inserted with
  | false => cases ran
  | true =>
      obtain ⟨up, free, rfl⟩ := of_exec_insert texts made
      obtain ⟨_, later, noted, done⟩ := exists_of_exec_bind ran
      cases noted
      cases done
      exact ⟨rfl, read, exec_get_of_alone up rfl (Table.alone_of_free free (by decide) id) id reads, back⟩

end TicketStore

namespace Routing

/-- A ticket that was registered has the fields that were sent, and is read back by its id. -/
theorem readBack_of_register {sent : NewTicket} {s s' : ServiceState} {ticket : Ticket}
    (ran : exec (register sent) s = (.ok ticket, s')) :
    sent.fields = .record ticket.fields ∧
      ∃ read, exec (TicketStore.get (.text ticket.id)) s' = (.ok read, s') ∧ ticket.ReadBack read := by
  rw [register_eq] at ran
  obtain ⟨draft, between, made, added⟩ := exists_of_exec_bind ran
  obtain ⟨-, whole, copied⟩ := of_exec_draft made
  obtain ⟨rfl, back⟩ := TicketStore.readBack_of_add whole added
  exact ⟨copied, back⟩

/-- A ticket that was registered, with fields whose names hold no half of a surrogate pair, is read back from the store,
and the facts of the ticket that is read are those of the ticket in hand exactly where each of the fields keeps its fact
or has a derived fact of its name put over it. -/
theorem registered_facts_iff {sent : NewTicket} {s s' : ServiceState} {ticket : Ticket} {fields : Fields}
    (given : sent.fields = .record fields) (unique : fields.names.Nodup)
    (whole : ∀ name ∈ fields.names, Text.hasHalf name = false)
    (ran : exec (register sent) s = (.ok ticket, s')) :
    ticket.fields = fields ∧ ∃ read, exec (TicketStore.get (.text ticket.id)) s' = (.ok read, s') ∧
      ((∀ name, read.facts.get? name = ticket.facts.get? name) ↔
        ∀ field ∈ fields, field.2.KeepsFact ∨ (ticket.derived? field.1).isSome = true) := by
  obtain ⟨copied, read, got, back⟩ := readBack_of_register ran
  obtain rfl : fields = ticket.fields := Value.record.inj (given.symm.trans copied)
  exact ⟨rfl, read, got, back.facts_iff unique whole⟩

end Routing

namespace Trial

/-- A state with nothing in the store. -/
def emptyStore : ServiceState := { clock := 0 }

/-- A ticket with fields of several kinds, and one that says what the company says as well. -/
def shipment : Routing.NewTicket where
  fields := .record [("quantity", .int 25), ("legs", .list [.record [("shipped", .moment ⟨0, some 0⟩)]]),
    ("booked", .date ⟨2026, 3, 1⟩), ("shipped", .moment ⟨0, none⟩), ("due", .moment ⟨0, some 7200000000⟩),
    ("company_kyb_status", .moment ⟨0, some 0⟩)]
  company := .record [("kyb_status", .text "Approved")]

/-- The text that a fact of a ticket is when the ticket is registered, and when it is read back. -/
def bothTexts (fields : Fields) (name : String) : Service (Option String × Option String) := do
  let ticket ← Routing.register { fields := .record fields }
  let read ← TicketStore.get (.text ticket.id)
  return ((ticket.facts.get? name).bind Value.text?, (read.facts.get? name).bind Value.text?)

end Trial

namespace Routing

/-- The facts of the ticket that is read back are those of the ticket in hand. -/
theorem registered_facts_iff_of_shipment :
    ∃ ticket s' read, exec (register Trial.shipment) Trial.emptyStore = (.ok ticket, s') ∧
      exec (TicketStore.get (.text ticket.id)) s' = (.ok read, s') ∧
      ∀ name, read.facts.get? name = ticket.facts.get? name := by
  obtain ⟨ticket, s', ran, derives⟩ := exists_of_answer (register Trial.shipment) Trial.emptyStore
    (fun ticket => (ticket.derived? "company_kyb_status").isSome) (by decide +kernel)
  have given : Trial.shipment.fields = .record _ := rfl
  obtain ⟨-, read, got, same⟩ := registered_facts_iff given (by decide) (by decide +kernel) ran
  refine ⟨ticket, s', read, ran, got, same.2 ?_⟩
  simp only [List.forall_mem_cons]
  exact ⟨Or.inl trivial, Or.inl trivial, Or.inl trivial, Or.inl (by decide), Or.inl (by decide), Or.inr derives,
    by simp⟩

/-- A moment of universal time is another fact when it is read back, and a field whose name holds half of a surrogate
pair is none. -/
theorem registered_facts_differ :
    (∃ ticket s' read, exec (register { fields := .record [("shipped", .moment ⟨0, some 0⟩)] }) Trial.emptyStore =
        (.ok ticket, s') ∧ exec (TicketStore.get (.text ticket.id)) s' = (.ok read, s') ∧
      ¬ ∀ name, read.facts.get? name = ticket.facts.get? name) ∧
    ∃ ticket s' read, exec (register { fields := .record [(Text.ofCodes [0xd800], .text "x")] }) Trial.emptyStore =
        (.ok ticket, s') ∧ exec (TicketStore.get (.text ticket.id)) s' = (.ok read, s') ∧
      ¬ ∀ name, read.facts.get? name = ticket.facts.get? name := by
  have differ {fields : Fields} (name : String)
      (told : (exec (Trial.bothTexts fields name) Trial.emptyStore).1.toOption.any (fun texts => texts.1 != texts.2) =
        true) :
      ∃ ticket s' read, exec (register { fields := .record fields }) Trial.emptyStore = (.ok ticket, s') ∧
        exec (TicketStore.get (.text ticket.id)) s' = (.ok read, s') ∧
        ¬ ∀ name, read.facts.get? name = ticket.facts.get? name := by
    obtain ⟨texts, last, ran, apart⟩ := exists_of_answer _ _ _ told
    obtain ⟨ticket, s', registered, ran⟩ := exists_of_exec_bind ran
    obtain ⟨-, read, got, -⟩ := readBack_of_register registered
    rw [exec_bind_ok got] at ran
    cases ran
    refine ⟨ticket, _, read, registered, got, fun same => ?_⟩
    simp [same name] at apart
  exact ⟨differ "shipped" (by decide +kernel), differ (Text.ofCodes [0xd800]) (by decide +kernel)⟩

end Routing

end Countersign
