/-
Module: Countersign.Proofs.Schema.Reading
Purpose: What was read from a record when a check of it accepted.
Main exports: Checked.seq_eq_accepted_iff, Reader.boundedText_eq_accepted_iff, Reader.items_eq_accepted_iff,
  Reader.items_map, Reader.record_eq_accepted_iff, Fields.wholly_eq_accepted_iff, Fields.required_text_iff,
  Request.check_eq_accepted_iff, Action.check_eq_accepted_iff, Ticket.check_eq_accepted_iff
-/
import Countersign.Approval.Request
import Mathlib.Data.List.Forall2

namespace Countersign

/-!
A check of several fields accepts exactly when the check of each field does, and then it gives what was read
from them. So two records that agree on the fields of a model are read alike, whatever else they hold.
-/

/-- A value is the text that it is read as. -/
theorem Value.text?_eq_some_iff {v : Value} {s : String} : v.text? = some s ↔ v = .text s := by
  cases v <;> simp [text?]

namespace Checked

variable {α β : Type}

theorem map_eq_accepted_iff {f : α → β} {checked : Checked α} {b : β} :
    f <$> checked = accepted b ↔ ∃ a, checked = accepted a ∧ f a = b := by
  cases checked with
  | accepted a => simp
  | refused faults =>
      constructor
      · intro same
        cases same
      · rintro ⟨a, same, -⟩
        cases same

theorem seq_eq_accepted_iff {function : Checked (α → β)} {checked : Checked α} {b : β} :
    function <*> checked = accepted b ↔
      ∃ f a, function = accepted f ∧ checked = accepted a ∧ f a = b := by
  cases function with
  | accepted f =>
      cases checked with
      | accepted a => simp
      | refused faults =>
          constructor
          · intro same
            cases same
          · rintro ⟨g, a, -, same, -⟩
            cases same
  | refused faults =>
      constructor
      · intro same
        cases checked <;> cases same
      · rintro ⟨g, a, same, -, -⟩
        cases same

theorem andThen_eq_accepted_iff {checked : Checked α} {next : α → Checked β} {b : β} :
    checked.andThen next = accepted b ↔ ∃ a, checked = accepted a ∧ next a = accepted b := by
  cases checked <;> simp [andThen]

theorem under_eq_accepted_iff {step : Step} {checked : Checked α} {a : α} :
    checked.under step = accepted a ↔ checked = accepted a := by
  cases checked <;> simp [under]

end Checked

namespace Reader

theorem text_eq_accepted_iff {v : Value} {s : String} :
    text v = .accepted s ↔ v = .text s := by
  cases v <;> simp [text, Checked.fail]

theorem record_eq_accepted_iff {v : Value} {fields : Fields} : record v = .accepted fields ↔ v = .record fields := by
  cases v <;> simp [record, Checked.fail]

theorem whole_eq_accepted_iff {α : Type} {s : String} {checked : Checked α} {a : α} :
    whole s checked = .accepted a ↔ Text.hasHalf s = false ∧ checked = .accepted a := by
  unfold whole
  cases Text.hasHalf s <;> simp [Checked.fail]

/-- A text of bounded length is read from itself: it holds no half of a pair, and is within its bounds. -/
theorem boundedText_eq_accepted_iff {least : Nat} {most : Option Nat} {v : Value} {s : String} :
    boundedText least most v = .accepted s ↔
      v = .text s ∧ Text.hasHalf s = false ∧ least ≤ Text.length s ∧ ∀ bound ∈ most, Text.length s ≤ bound := by
  simp only [boundedText, Checked.andThen_eq_accepted_iff, text_eq_accepted_iff, whole_eq_accepted_iff]
  constructor
  · rintro ⟨t, rfl, whole, read⟩
    split_ifs at read with short
    · cases read
    have filled : least ≤ Text.length t := Nat.le_of_not_lt short
    cases most with
    | none =>
        obtain rfl := Checked.accepted.inj read
        exact ⟨rfl, whole, filled, nofun⟩
    | some bound =>
        dsimp only at read
        split_ifs at read with long
        · cases read
        obtain rfl := Checked.accepted.inj read
        exact ⟨rfl, whole, filled, by simpa using long⟩
  · rintro ⟨rfl, whole, filled, fits⟩
    refine ⟨s, rfl, whole, ?_⟩
    rw [if_neg (Nat.not_lt.2 filled)]
    cases most with
    | none => rfl
    | some bound => exact if_neg (Nat.not_lt.2 (fits bound rfl))

/-- A text of bounded length was read from itself. -/
theorem eq_text_of_boundedText {least : Nat} {most : Option Nat} {v : Value} {s : String}
    (read : boundedText least most v = .accepted s) : v = .text s := (boundedText_eq_accepted_iff.1 read).1

theorem length_le_of_boundedText {least most : Nat} {v : Value} {s : String}
    (read : boundedText least (some most) v = .accepted s) : Text.length s ≤ most :=
  (boundedText_eq_accepted_iff.1 read).2.2.2 most rfl

/-! ### Lists -/

variable {α : Type} {reader : Reader α} {write : α → Value} {v : Value} {values : List Value} {found : List α}

/-- The items of a list are read one by one. -/
theorem itemsFrom_eq_accepted_iff {index : Nat} :
    itemsFrom reader index values = .accepted found ↔
      List.Forall₂ (fun v a => reader v = .accepted a) values found := by
  induction values generalizing index found with
  | nil =>
      constructor
      · intro read
        obtain rfl := Checked.accepted.inj read
        exact .nil
      · intro related
        cases related
        rfl
  | cons v rest ih =>
      rw [itemsFrom, Checked.seq_eq_accepted_iff]
      constructor
      · rintro ⟨f, others, first, behind, rfl⟩
        obtain ⟨a, read, rfl⟩ := Checked.map_eq_accepted_iff.1 first
        exact .cons (Checked.under_eq_accepted_iff.1 read) (ih.1 behind)
      · intro related
        cases related with
        | cons here behind =>
            exact ⟨_, _, Checked.map_eq_accepted_iff.2 ⟨_, Checked.under_eq_accepted_iff.2 here, rfl⟩,
              ih.2 behind, rfl⟩

theorem items_eq_accepted_iff :
    items reader (.list values) = .accepted found ↔
      List.Forall₂ (fun v a => reader v = .accepted a) values found := itemsFrom_eq_accepted_iff

/-- Every item of a list that was read was read from a value. -/
theorem exists_of_mem_items {a : α} (read : items reader (.list values) = .accepted found) (member : a ∈ found) :
    ∃ v ∈ values, reader v = .accepted a := by
  rw [items_eq_accepted_iff] at read
  induction read with
  | nil => cases member
  | cons here _ ih =>
      rcases List.mem_cons.1 member with rfl | later
      · exact ⟨_, by simp, here⟩
      · obtain ⟨v, within, known⟩ := ih later
        exact ⟨v, List.mem_cons_of_mem _ within, known⟩

/-- What is read again from what it is written as is read from a list of what it is written as. -/
theorem items_map (again : ∀ a ∈ found, reader (write a) = .accepted a) :
    items reader (.list (found.map write)) = .accepted found := by
  rw [items_eq_accepted_iff, List.forall₂_map_left_iff, List.forall₂_same]
  exact again

/-- Where each item is read from nothing but what it is written as, so is a list of them. -/
theorem items_eq_accepted_iff_of_exact (exact : ∀ v a, reader v = .accepted a ↔ v = write a) :
    items reader v = .accepted found ↔ v = .list (found.map write) := by
  constructor
  · intro read
    cases v with
    | list values =>
        rw [items_eq_accepted_iff] at read
        have same : List.Forall₂ Eq values (found.map write) :=
          List.forall₂_map_right_iff.2 (read.imp fun v a => (exact v a).1)
        rw [List.forall₂_eq_eq_eq] at same
        rw [same]
    | _ => cases read
  · rintro rfl
    exact items_map fun a _ => (exact _ a).2 rfl

theorem someItems_eq_accepted_iff :
    someItems reader v = .accepted found ↔ items reader v = .accepted found ∧ found ≠ [] := by
  simp only [someItems, Checked.andThen_eq_accepted_iff]
  constructor
  · rintro ⟨given, read, filled⟩
    split_ifs at filled with empty
    · cases filled
    · obtain rfl := Checked.accepted.inj filled
      exact ⟨read, by simpa using empty⟩
  · rintro ⟨read, filled⟩
    exact ⟨found, read, if_neg (by simpa using filled)⟩

/-- What was read as a list of at least one item has one. -/
theorem ne_nil_of_someItems (read : someItems reader v = .accepted found) : found ≠ [] :=
  (someItems_eq_accepted_iff.1 read).2

/-- Texts are read from a list of texts. -/
theorem texts_ofTexts (names : List String) : texts (.ofTexts names) = .accepted names :=
  items_map fun _ _ => rfl

/-- A list of texts that is not empty is read. -/
theorem someItems_ofTexts {names : List String} (some : names ≠ []) :
    someItems text (.ofTexts names) = .accepted names := someItems_eq_accepted_iff.2 ⟨texts_ofTexts names, some⟩

end Reader

namespace Fields

theorem wholly_eq_accepted_iff {α : Type} {fields : Fields} {checked : Checked α} {a : α} :
    fields.wholly checked = .accepted a ↔
      (∀ name ∈ fields.names, Text.hasHalf name = false) ∧ checked = .accepted a := by
  have plain : fields.names.find? Text.hasHalf = none ↔ ∀ name ∈ fields.names, Text.hasHalf name = false := by simp
  rw [← plain]
  unfold wholly
  cases fields.names.find? Text.hasHalf with
  | none => simp
  | some name => simp [Checked.fail]

theorem closed_eq_accepted_iff {fields : Fields} {known : List String} {done : Unit} :
    fields.closed known = .accepted done ↔ ∀ name ∈ fields.names, name ∈ known := by
  unfold closed
  split
  · next inside => simpa [names, List.filter_eq_nil_iff] using inside
  · next outside =>
      refine iff_of_false nofun fun within => outside ?_
      simpa [names, List.filter_eq_nil_iff] using within

theorem required_eq_accepted_iff {α : Type} {fields : Fields} {name : String} {reader : Reader α}
    {a : α} :
    fields.required name reader = .accepted a ↔
      ∃ v, fields.get? name = some v ∧ reader v = .accepted a := by
  unfold required
  cases fields.get? name with
  | none => simp
  | some v => simp [Checked.under_eq_accepted_iff]

/-- A text was read exactly where the field is that text. -/
theorem required_text_iff {fields : Fields} {name s : String} :
    fields.required name Reader.text = .accepted s ↔ fields.get? name = some (.text s) := by
  rw [required_eq_accepted_iff]
  constructor
  · rintro ⟨v, found, read⟩
    rw [found, Reader.text_eq_accepted_iff.1 read]
  · intro found
    exact ⟨.text s, found, rfl⟩

/-- Reading a field looks at nothing but that field. -/
theorem required_congr {α : Type} {fields others : Fields} {name : String}
    (alike : others.get? name = fields.get? name) {reader : Reader α} {a : α}
    (read : fields.required name reader = .accepted a) :
    others.required name reader = .accepted a := by
  rw [required_eq_accepted_iff] at read ⊢
  rw [alike]
  exact read

theorem optional_congr {α : Type} {fields others : Fields} {name : String}
    (alike : others.get? name = fields.get? name) {default : α} {reader : Reader α} {a : α}
    (read : fields.optional name default reader = .accepted a) :
    others.optional name default reader = .accepted a := by
  unfold optional at read ⊢
  rw [alike]
  cases found : fields.get? name with
  | none =>
      rw [found] at read
      exact read
  | some v =>
      rw [found] at read
      exact Checked.under_eq_accepted_iff.2 (Checked.under_eq_accepted_iff.1 read)

theorem optional_of_get? {α : Type} {fields : Fields} {name : String} {v : Value}
    (found : fields.get? name = some v) {default : α} {reader : Reader α} {a : α} :
    fields.optional name default reader = .accepted a ↔ reader v = .accepted a := by
  unfold optional
  rw [found]
  exact Checked.under_eq_accepted_iff

end Fields

/-- A request is what was read from the fields of a request. -/
theorem Request.check_eq_accepted_iff {fields : Fields} {request : Request} :
    Request.check fields = .accepted request ↔
      fields.required "approval_request_id" Reader.text = .accepted request.id ∧
      fields.required "ticket_id" Reader.text = .accepted request.ticketId ∧
      fields.required "required_approvers" (Reader.someItems Reader.text) =
        .accepted request.approvers ∧
      fields.required "rule_triggered" Reader.text = .accepted request.ruleTriggered ∧
      fields.optional "role_to_rules" [] (Reader.entries Reader.texts) =
        .accepted request.roleToRules ∧
      fields.optional "status" .pending (Reader.choice ApprovalStatus.choices) =
        .accepted request.status ∧
      fields.optional "version" 1 Reader.int = .accepted request.version ∧
      fields.required "created_at" Reader.moment = .accepted request.createdAt ∧
      fields.required "updated_at" Reader.moment = .accepted request.updatedAt ∧
      fields.optional "decided_at" none (Reader.nullable Reader.moment) =
        .accepted request.decidedAt := by
  unfold Request.check
  simp only [Checked.seq_eq_accepted_iff, Checked.map_eq_accepted_iff]
  constructor
  · rintro ⟨_, _, ⟨_, _, ⟨_, _, ⟨_, _, ⟨_, _, ⟨_, _, ⟨_, _, ⟨_, _, ⟨_, _, ⟨_, id, rfl⟩, ticketId, rfl⟩,
      approvers, rfl⟩, ruleTriggered, rfl⟩, roleToRules, rfl⟩, status, rfl⟩, version, rfl⟩, createdAt,
      rfl⟩, updatedAt, rfl⟩, decidedAt, rfl⟩
    exact ⟨id, ticketId, approvers, ruleTriggered, roleToRules, status, version, createdAt, updatedAt,
      decidedAt⟩
  · rintro ⟨id, ticketId, approvers, ruleTriggered, roleToRules, status, version, createdAt, updatedAt,
      decidedAt⟩
    exact ⟨_, _, ⟨_, _, ⟨_, _, ⟨_, _, ⟨_, _, ⟨_, _, ⟨_, _, ⟨_, _, ⟨_, _, ⟨_, id, rfl⟩, ticketId, rfl⟩,
      approvers, rfl⟩, ruleTriggered, rfl⟩, roleToRules, rfl⟩, status, rfl⟩, version, rfl⟩, createdAt,
      rfl⟩, updatedAt, rfl⟩, decidedAt, rfl⟩

/-- An action is what was read from the fields of an action. -/
theorem Action.check_eq_accepted_iff {fields : Fields} {action : Action} :
    Action.check fields = .accepted action ↔
      fields.required "action_id" Reader.text = .accepted action.id ∧
      fields.required "approval_request_id" Reader.text = .accepted action.requestId ∧
      fields.required "approver_role" Reader.text = .accepted action.role ∧
      fields.required "action" (Reader.choice Decision.choices) = .accepted action.decision ∧
      fields.optional "comment" none (Reader.nullable Reader.text) = .accepted action.comment ∧
      fields.required "sequence" (Reader.boundedInt 1 none) = .accepted action.sequence ∧
      fields.required "idempotency_key" Reader.text = .accepted action.key ∧
      fields.required "created_at" Reader.moment = .accepted action.createdAt := by
  unfold Action.check
  simp only [Checked.seq_eq_accepted_iff, Checked.map_eq_accepted_iff]
  constructor
  · rintro ⟨_, _, ⟨_, _, ⟨_, _, ⟨_, _, ⟨_, _, ⟨_, _, ⟨_, _, ⟨_, id, rfl⟩, requestId, rfl⟩, role, rfl⟩,
      decision, rfl⟩, comment, rfl⟩, sequence, rfl⟩, key, rfl⟩, createdAt, rfl⟩
    exact ⟨id, requestId, role, decision, comment, sequence, key, createdAt⟩
  · rintro ⟨id, requestId, role, decision, comment, sequence, key, createdAt⟩
    exact ⟨_, _, ⟨_, _, ⟨_, _, ⟨_, _, ⟨_, _, ⟨_, _, ⟨_, _, ⟨_, id, rfl⟩, requestId, rfl⟩, role, rfl⟩,
      decision, rfl⟩, comment, rfl⟩, sequence, rfl⟩, key, rfl⟩, createdAt, rfl⟩

/-- A ticket is what was read from the fields of a ticket. -/
theorem Ticket.check_eq_accepted_iff {fields : Fields} {ticket : Ticket} :
    Ticket.check fields = .accepted ticket ↔
      fields.required "ticket_id" Reader.text = .accepted ticket.id ∧
      fields.optional "status" .draft (Reader.choice TicketStatus.choices) = .accepted ticket.status ∧
      fields.optional "fields" [] Reader.record = .accepted ticket.fields ∧
      fields.optional "company" none (Reader.nullable (Reader.model "CompanySnapshot" Company.check)) =
        .accepted ticket.company ∧
      fields.required "created_at" Reader.moment = .accepted ticket.createdAt ∧
      fields.required "updated_at" Reader.moment = .accepted ticket.updatedAt := by
  unfold Ticket.check
  simp only [Checked.seq_eq_accepted_iff, Checked.map_eq_accepted_iff]
  constructor
  · rintro ⟨_, _, ⟨_, _, ⟨_, _, ⟨_, _, ⟨_, _, ⟨_, id, rfl⟩, status, rfl⟩, fields, rfl⟩, company, rfl⟩,
      createdAt, rfl⟩, updatedAt, rfl⟩
    exact ⟨id, status, fields, company, createdAt, updatedAt⟩
  · rintro ⟨id, status, fields, company, createdAt, updatedAt⟩
    exact ⟨_, _, ⟨_, _, ⟨_, _, ⟨_, _, ⟨_, _, ⟨_, id, rfl⟩, status, rfl⟩, fields, rfl⟩, company, rfl⟩,
      createdAt, rfl⟩, updatedAt, rfl⟩

/-! ### Readers of what the store keeps -/

/-- A status is read from its name. -/
theorem Reader.choice_status (status : ApprovalStatus) :
    Reader.choice ApprovalStatus.choices (.text status.name) = .accepted status := by
  cases status <;> rfl

theorem Reader.choice_decision (decision : Decision) :
    Reader.choice Decision.choices (.text decision.name) = .accepted decision := by
  cases decision <;> rfl

theorem Reader.choice_ticketStatus (status : TicketStatus) :
    Reader.choice TicketStatus.choices (.text status.name) = .accepted status := by
  cases status <;> rfl

end Countersign
