/-
Module: Countersign.Proofs.Schema.Tickets
Purpose: A ticket that the store keeps is read again.
Main exports: Company.IsWhole, Company.isWhole_of_check, Company.exists_check_written,
  Ticket.ReadBack, Ticket.exists_check_document, Ticket.exists_check_congr
-/
import Countersign.Proofs.Schema.Reading
import Countersign.Proofs.Store.Documents

namespace Countersign

/-!
A ticket is written with substitutes for what has no form in bytes, and a company is read field by field. No name
in a company that was read holds half of a surrogate pair, so no name is replaced when it is written, and the
fields that a company is known by are read from the document again.
-/

namespace Value

/-- Writing a record keeps its names. -/
theorem names_dumpedFields (fields : Fields) :
    Fields.names (dumpedFields fields) = Fields.names fields := by
  induction fields with
  | nil => rfl
  | cons field rest ih => simpa [dumpedFields, Fields.names] using ih

/-- Storing a record keeps its names. -/
theorem names_storedFields (fields : Fields) :
    Fields.names (storedFields fields) = Fields.names fields := by
  induction fields with
  | nil => rfl
  | cons field rest ih => simpa [storedFields, Fields.names] using ih

end Value

/-- What is read from a record as it is written. -/
theorem Fields.get?_dumpedFields (fields : Fields) (name : String) :
    Fields.get? (Value.dumpedFields fields) name = (fields.get? name).map Value.dumped := by
  induction fields with
  | nil => rfl
  | cons field rest ih =>
      obtain ⟨key, v⟩ := field
      by_cases same : key = name
      · simp [Value.dumpedFields, same]
      · simp [Value.dumpedFields, same, ih]

namespace Company

/-- A company without a half of a surrogate pair in the name of a field. -/
def IsWhole (company : Company) : Prop := ∀ field ∈ company.others, Text.hasHalf field.1 = false

/-- A company that was read has whole names. -/
theorem isWhole_of_check {fields : Fields} {company : Company}
    (read : Company.check fields = .accepted company) : company.IsWhole := by
  simp only [check, Fields.wholly_eq_accepted_iff, Checked.seq_eq_accepted_iff, Checked.map_eq_accepted_iff] at read
  obtain ⟨whole, _, _, ⟨_, _, ⟨_, _, ⟨_, _, ⟨_, -, rfl⟩, -, rfl⟩, -, rfl⟩, -, rfl⟩, others, rfl⟩ := read
  obtain rfl := Checked.accepted.inj others
  exact fun field member => whole field.1 (List.mem_map_of_mem (List.mem_filter.1 member).1)

theorem isWhole_of_model {v : Value} {company : Company}
    (read : Reader.model "CompanySnapshot" Company.check v = .accepted company) : company.IsWhole := by
  cases v with
  | record fields => exact isWhole_of_check read
  | _ => cases read

/-- The fields that a company is known by, and the others. -/
def fields (company : Company) : Fields :=
  [("company_id", .ofText? company.id), ("name", .ofText? company.name),
    ("kyb_status", .ofText? company.kybStatus), ("risk_rating", .ofText? company.riskRating)]
      ++ company.others

/-- No name in the fields of a whole company holds half of a surrogate pair. -/
theorem IsWhole.fields {company : Company} (whole : company.IsWhole) :
    ∀ name ∈ Fields.names company.fields, Text.hasHalf name = false := by
  intro name member
  obtain ⟨field, within, rfl⟩ := List.mem_map.1 member
  rcases List.mem_append.1 within with known | other
  · have plain : ∀ field ∈ ([("company_id", .ofText? company.id), ("name", .ofText? company.name),
        ("kyb_status", .ofText? company.kybStatus), ("risk_rating", .ofText? company.riskRating)] : Fields),
        Text.hasHalf field.1 = false := by
      simp only [List.forall_mem_cons]
      decide
    exact plain field known
  · exact whole field other

/-- A text that may be missing is read from what is written and stored of it. -/
theorem nullable_text_written (text : Option String) :
    Reader.nullable Reader.text (Value.ofText? text).dumped.stored = .accepted text := by
  cases text <;> rfl

/-- A whole company is read again from what is written and stored of it, with the texts that it is known by. -/
theorem exists_check_written {company : Company} (whole : company.IsWhole) :
    ∃ again : Company, Reader.nullable (Reader.model "CompanySnapshot" Company.check)
      company.value.dumped.stored = .accepted (some again) ∧
      again.kybStatus = company.kybStatus ∧ again.riskRating = company.riskRating := by
  let written := Value.dumpedFields company.fields
  have names : Fields.names (Value.storedFields written) = Fields.names company.fields := by
    rw [Value.names_storedFields, Value.names_dumpedFields]
  -- Writing would replace names with halves of surrogate pairs, and a whole company has none.
  have unchanged : Dump.entries written = written := by
    apply Dump.entries_of_whole
    intro field member
    apply whole.fields
    rw [← Value.names_dumpedFields]
    exact List.mem_map_of_mem member
  have document : company.value.dumped.stored = .record (Value.storedFields written) := by
    change Value.record (Value.storedFields (Dump.entries written)) = _
    rw [unchanged]
  have plain : ∀ name ∈ Fields.names (Value.storedFields written), Text.hasHalf name = false := by
    rw [names]
    exact whole.fields
  have text (name : String) (v : Option String)
      (here : Fields.get? (Value.storedFields written) name = some (Value.ofText? v).dumped.stored) :
      Fields.optional (Value.storedFields written) name none (Reader.nullable Reader.text) =
        .accepted v := (Fields.optional_of_get? here).2 (nullable_text_written v)
  have read : Company.check (Value.storedFields written) = .accepted
      ⟨company.id, company.name, company.kybStatus, company.riskRating,
        (Value.storedFields written).filter fun field => !knownFields.contains field.1⟩ := by
    refine Fields.wholly_eq_accepted_iff.2 ⟨plain, ?_⟩
    simp only [text "company_id" company.id rfl, text "name" company.name rfl,
      text "kyb_status" company.kybStatus rfl, text "risk_rating" company.riskRating rfl]
    rfl
  have reads : Reader.nullable (Reader.model "CompanySnapshot" Company.check) company.value.dumped.stored =
      some <$> Company.check (Value.storedFields written) := by
    rw [document]
    rfl
  rw [read] at reads
  exact ⟨_, reads, rfl, rfl⟩

end Company

namespace Ticket

/-- A ticket as it is read again: its fields are those that were written, and its company has the texts that are
facts. -/
structure ReadBack (ticket read : Ticket) : Prop where
  fields : read.fields = Value.storedFields (Dump.entries (Value.dumpedFields ticket.fields))
  status : read.company.bind (·.kybStatus) = ticket.company.bind (·.kybStatus)
  rating : read.company.bind (·.riskRating) = ticket.company.bind (·.riskRating)

/-- A ticket whose company has whole names is read again from its document. -/
theorem exists_check_document {ticket : Ticket}
    (whole : ∀ company, ticket.company = some company → company.IsWhole) :
    ∃ read, Ticket.check (Document.kept ticket.document) = .accepted read ∧ ticket.ReadBack read := by
  have read {name : String} {v : Value} (known : Fields.get? ticket.document name = some v) :
      Fields.get? (Document.kept ticket.document) name = some v.stored := by
    rw [Document.kept, Fields.get?_storedFields, known]
    rfl
  have id : Fields.get? (Document.kept ticket.document) "ticket_id" = some (.text ticket.id) :=
    read (v := .text ticket.id) (by simp [document, record, body])
  have status : Fields.get? (Document.kept ticket.document) "status" = some (.text ticket.status.name) :=
    read (v := .text ticket.status.name) (by simp [document, record, body])
  have fields : Fields.get? (Document.kept ticket.document) "fields" =
      some (.record (Value.storedFields (Dump.entries (Value.dumpedFields ticket.fields)))) :=
    read (v := Value.dumped (.record ticket.fields)) (by simp [document, record, body])
  have createdAt : Fields.get? (Document.kept ticket.document) "created_at" =
      some (.moment ticket.createdAt.stored) :=
    read (v := .moment ticket.createdAt) (by simp [document, record, body])
  have updatedAt : Fields.get? (Document.kept ticket.document) "updated_at" =
      some (.moment ticket.updatedAt.stored) :=
    read (v := .moment ticket.updatedAt) (by simp [document, record, body])
  -- The company is read through a schema of its own. Of what it says only the texts that are facts are followed.
  obtain ⟨company, companyRead, kyb, rating⟩ : ∃ company : Option Company,
      Fields.optional (Document.kept ticket.document) "company" none
        (Reader.nullable (Reader.model "CompanySnapshot" Company.check)) = .accepted company ∧
      company.bind (·.kybStatus) = ticket.company.bind (·.kybStatus) ∧
      company.bind (·.riskRating) = ticket.company.bind (·.riskRating) := by
    cases copied : ticket.company with
    | none =>
        have here : Fields.get? (Document.kept ticket.document) "company" = some .null :=
          read (v := .null) (by simp [document, record, body, copied])
        exact ⟨none, (Fields.optional_of_get? here).2 rfl, rfl, rfl⟩
    | some company =>
        have here : Fields.get? (Document.kept ticket.document) "company" =
            some company.value.dumped.stored :=
          read (v := company.value.dumped) (by simp [document, record, body, copied])
        obtain ⟨again, known, status, rating⟩ := Company.exists_check_written (whole company copied)
        exact ⟨some again, (Fields.optional_of_get? here).2 known, status, rating⟩
  exact ⟨⟨ticket.id, ticket.status, _, company, _, _⟩, check_eq_accepted_iff.2
    ⟨Fields.required_text_iff.2 id, (Fields.optional_of_get? status).2 (Reader.choice_ticketStatus _),
      (Fields.optional_of_get? fields).2 rfl, companyRead,
      Fields.required_eq_accepted_iff.2 ⟨_, createdAt, rfl⟩,
      Fields.required_eq_accepted_iff.2 ⟨_, updatedAt, rfl⟩⟩, rfl, kyb, rating⟩

/-- A ticket is still read when its document was given another status and another time. -/
theorem exists_check_congr {fields others : Fields} {status : TicketStatus} {time : Moment}
    (readable : ∃ ticket, Ticket.check fields = .accepted ticket)
    (alike : ∀ {name}, name ∉ ["status", "updated_at"] → others.get? name = fields.get? name)
    (stands : others.get? "status" = some (.text status.name))
    (updated : others.get? "updated_at" = some (.moment time)) :
    ∃ ticket, Ticket.check others = .accepted ticket := by
  obtain ⟨ticket, read⟩ := readable
  obtain ⟨id, -, itsFields, company, createdAt, -⟩ := check_eq_accepted_iff.1 read
  exact ⟨{ ticket with status, updatedAt := time }, check_eq_accepted_iff.2
    ⟨Fields.required_congr (alike (by decide)) id,
      (Fields.optional_of_get? stands).2 (Reader.choice_ticketStatus status),
      Fields.optional_congr (alike (by decide)) itsFields,
      Fields.optional_congr (alike (by decide)) company,
      Fields.required_congr (alike (by decide)) createdAt,
      Fields.required_eq_accepted_iff.2 ⟨_, updated, rfl⟩⟩⟩

end Ticket

end Countersign
