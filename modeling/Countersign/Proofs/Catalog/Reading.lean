/-
Module: Countersign.Proofs.Catalog.Reading
Purpose: Rules that were checked are read again from what the store keeps of them.
Main exports: Rule.check_eq_accepted_iff, Rule.name_of_check, Rule.conditions_of_check, Rule.Sound,
  Rule.get?_fields_of_check, Rule.Fills.check, Document.IsRule, Document.IsRule.exists_shownBy
-/
import Countersign.Proofs.Catalog.Requirements
import Countersign.Proofs.Condition.Grammar
import Countersign.Rule.Catalog

namespace Countersign

/-!
A rule is checked as a whole before it is stored, but a change of a rule stores only the fields that were sent, one
after the other, and may stop half-way. So what is known of the document of a rule is known field by field: each
field is that of some rule that was checked. Such a document is read as a rule, and that rule demands a role.
-/

/-! ### Conditions -/

namespace Condition

/-- The store keeps a condition as it is. -/
theorem stored_value (condition : Condition) : condition.value.stored = condition.value := by
  have scalar (s : Scalar) : s.value.stored = s.value := by cases s <;> rfl
  cases condition with
  | compare field operator operand => simp [value, Value.stored, Value.storedFields, scalar]
  | member field operator operands =>
      have items : Value.storedItems (operands.map Scalar.value) = operands.map Scalar.value := by
        induction operands with
        | nil => rfl
        | cons s rest ih => simp [Value.storedItems, scalar, ih]
      simp [value, Value.stored, Value.storedFields, items]

theorem stored_values (conditions : List Condition) :
    (Value.list (conditions.map value)).stored = .list (conditions.map value) := by
  have items : Value.storedItems (conditions.map value) = conditions.map value := by
    induction conditions with
    | nil => rfl
    | cons condition rest ih => simp [Value.storedItems, stored_value, ih]
  simp [Value.stored, items]

end Condition

/-- A text that may be missing has no moment in it. -/
theorem Value.stored_ofText? (found : Option String) : (ofText? found).stored = .ofText? found := by
  cases found <;> rfl

/-! ### Rules -/

/-- A rule is what was read from the fields of a rule. -/
theorem Rule.check_eq_accepted_iff {fields : Fields} {rule : Rule} :
    Rule.check fields = .accepted rule ↔
      fields.required "rule_id" Reader.text = .accepted rule.id ∧
      fields.required "name" (Reader.boundedText 1 (some maxName)) = .accepted rule.name ∧
      fields.optional "description" none (Reader.nullable Reader.text) = .accepted rule.description ∧
      fields.optional "priority" defaultPriority Reader.int = .accepted rule.priority ∧
      fields.optional "is_enabled" true Reader.bool = .accepted rule.enabled ∧
      fields.optional "combinator" .all (Reader.choice Combinator.choices) = .accepted rule.combinator ∧
      fields.optional "conditions" [] (Reader.items Condition.check) = .accepted rule.conditions ∧
      fields.optional "required_approvers" [] Reader.texts = .accepted rule.approvers ∧
      fields.required "created_at" Reader.moment = .accepted rule.createdAt ∧
      fields.required "updated_at" Reader.moment = .accepted rule.updatedAt := by
  unfold Rule.check
  simp only [Checked.seq_eq_accepted_iff, Checked.map_eq_accepted_iff]
  constructor
  · rintro ⟨_, _, ⟨_, _, ⟨_, _, ⟨_, _, ⟨_, _, ⟨_, _, ⟨_, _, ⟨_, _, ⟨_, _, ⟨_, id, rfl⟩, name, rfl⟩,
      description, rfl⟩, priority, rfl⟩, enabled, rfl⟩, combinator, rfl⟩, conditions, rfl⟩, approvers,
      rfl⟩, createdAt, rfl⟩, updatedAt, rfl⟩
    exact ⟨id, name, description, priority, enabled, combinator, conditions, approvers, createdAt, updatedAt⟩
  · rintro ⟨id, name, description, priority, enabled, combinator, conditions, approvers, createdAt, updatedAt⟩
    exact ⟨_, _, ⟨_, _, ⟨_, _, ⟨_, _, ⟨_, _, ⟨_, _, ⟨_, _, ⟨_, _, ⟨_, _, ⟨_, id, rfl⟩, name, rfl⟩,
      description, rfl⟩, priority, rfl⟩, enabled, rfl⟩, combinator, rfl⟩, conditions, rfl⟩, approvers,
      rfl⟩, createdAt, rfl⟩, updatedAt, rfl⟩

/-- The name of a rule that was read is read again. -/
theorem Rule.name_of_check {fields : Fields} {rule : Rule} (read : Rule.check fields = .accepted rule) :
    Reader.boundedText 1 (some maxName) (.text rule.name) = .accepted rule.name := by
  obtain ⟨-, name, -⟩ := check_eq_accepted_iff.1 read
  obtain ⟨v, -, bounded⟩ := Fields.required_eq_accepted_iff.1 name
  rwa [Reader.eq_text_of_boundedText bounded] at bounded

/-- The conditions of a rule that was read are read again from what they are written as. -/
theorem Rule.conditions_of_check {fields : Fields} {rule : Rule} (read : Rule.check fields = .accepted rule) :
    ∀ condition ∈ rule.conditions, Condition.check condition.value = .accepted condition := by
  obtain ⟨-, -, -, -, -, -, tests, -⟩ := check_eq_accepted_iff.1 read
  intro condition member
  cases given : fields.get? "conditions" with
  | none =>
      rw [Fields.optional, given] at tests
      rw [← Checked.accepted.inj tests] at member
      cases member
  | some v =>
      have listed := (Fields.optional_of_get? given).1 tests
      cases v with
      | list values =>
          obtain ⟨v, -, known⟩ := Reader.exists_of_mem_items listed member
          exact Condition.check_value known
      | _ => cases listed

/-- What the check of a whole rule leaves certain of it. -/
structure Rule.Sound (rule : Rule) : Prop where
  name : Reader.boundedText 1 (some maxName) (.text rule.name) = .accepted rule.name
  conditions : ∀ condition ∈ rule.conditions, Condition.check condition.value = .accepted condition
  demanding : rule.approvers ≠ []
  named : ∀ role ∈ rule.approvers, role ≠ ""

/-! ### Documents of rules -/

namespace Rule

/-- The names of the fields of a rule. -/
def fieldNames : List String :=
  ["rule_id", "name", "description", "priority", "is_enabled", "combinator", "conditions", "required_approvers",
    "created_at", "updated_at"]

/-- What two records have the same of, the rules that are read from them have the same of. -/
theorem get?_fields_of_check {record other : Fields} {rule changed : Rule} (read : Rule.check record = .accepted rule)
    (too : Rule.check other = .accepted changed) {name : String} (same : other.get? name = record.get? name) :
    changed.fields.get? name = rule.fields.get? name := by
  obtain ⟨i, n, d, p, e, c, t, a, m, u⟩ := check_eq_accepted_iff.1 read
  obtain ⟨i', n', d', p', e', c', t', a', m', u'⟩ := check_eq_accepted_iff.1 too
  by_cases known : name ∈ fieldNames
  · have text {one two : String} (alike : one = two) : some (Value.text one) = some (.text two) := by rw [alike]
    have time {one two : Moment} (alike : one = two) : some (Value.moment one) = some (.moment two) := by rw [alike]
    simp only [fieldNames, List.mem_cons, List.not_mem_nil, or_false] at known
    rcases known with rfl | rfl | rfl | rfl | rfl | rfl | rfl | rfl | rfl | rfl
    · exact text (Checked.accepted.inj (i'.symm.trans (Fields.required_congr same i)))
    · exact text (Checked.accepted.inj (n'.symm.trans (Fields.required_congr same n)))
    · exact congrArg (fun d => some (Value.ofText? d))
        (Checked.accepted.inj (d'.symm.trans (Fields.optional_congr same d)))
    · exact congrArg (fun p => some (Value.int p)) (Checked.accepted.inj (p'.symm.trans (Fields.optional_congr same p)))
    · exact congrArg (fun e => some (Value.bool e))
        (Checked.accepted.inj (e'.symm.trans (Fields.optional_congr same e)))
    · exact text (congrArg Combinator.name (Checked.accepted.inj (c'.symm.trans (Fields.optional_congr same c))))
    · exact congrArg (fun t => some (Value.list (t.map Condition.value)))
        (Checked.accepted.inj (t'.symm.trans (Fields.optional_congr same t)))
    · exact congrArg (fun a => some (Value.ofTexts a))
        (Checked.accepted.inj (a'.symm.trans (Fields.optional_congr same a)))
    · exact time (Checked.accepted.inj (m'.symm.trans (Fields.required_congr same m)))
    · exact time (Checked.accepted.inj (u'.symm.trans (Fields.required_congr same u)))
  · exact (Fields.get?_eq_none_iff.2 known).trans (Fields.get?_eq_none_iff.2 known).symm

/-- A record with another time of the last change is read as the rule with that time. -/
theorem check_updated {record other : Fields} {rule : Rule} (time : Moment)
    (alike : ∀ {name}, name ≠ "updated_at" → other.get? name = record.get? name)
    (updated : other.get? "updated_at" = some (.moment time)) (read : Rule.check record = .accepted rule) :
    Rule.check other = .accepted { rule with updatedAt := time } := by
  obtain ⟨id, name, description, priority, enabled, combinator, conditions, approvers, createdAt, -⟩ :=
    check_eq_accepted_iff.1 read
  exact check_eq_accepted_iff.2 ⟨Fields.required_congr (alike (by decide)) id,
    Fields.required_congr (alike (by decide)) name, Fields.optional_congr (alike (by decide)) description,
    Fields.optional_congr (alike (by decide)) priority, Fields.optional_congr (alike (by decide)) enabled,
    Fields.optional_congr (alike (by decide)) combinator, Fields.optional_congr (alike (by decide)) conditions,
    Fields.optional_congr (alike (by decide)) approvers, Fields.required_congr (alike (by decide)) createdAt,
    Fields.required_eq_accepted_iff.2 ⟨_, updated, rfl⟩⟩

/-- A record that has the fields of a rule. -/
def Fills (rule : Rule) (record : Fields) : Prop := ∀ name ∈ fieldNames, record.get? name = rule.fields.get? name

/-- A rule is read from a record that has its fields, where its name and its conditions are read again from what they
are written as. -/
theorem Fills.check {rule : Rule} {record : Fields} (fills : rule.Fills record)
    (name : Reader.boundedText 1 (some maxName) (.text rule.name) = .accepted rule.name)
    (conditions : ∀ condition ∈ rule.conditions, Condition.check condition.value = .accepted condition) :
    Rule.check record = .accepted rule := by
  refine check_eq_accepted_iff.2 ⟨?_, ?_, ?_, ?_, ?_, ?_, ?_, ?_, ?_, ?_⟩
  · exact Fields.required_text_iff.2 (fills _ (by decide))
  · exact Fields.required_eq_accepted_iff.2 ⟨_, fills "name" (by decide), name⟩
  · refine (Fields.optional_of_get? (fills "description" (by decide))).2 ?_
    cases rule.description <;> rfl
  · exact (Fields.optional_of_get? (fills "priority" (by decide))).2 rfl
  · exact (Fields.optional_of_get? (fills "is_enabled" (by decide))).2 rfl
  · refine (Fields.optional_of_get? (fills "combinator" (by decide))).2 ?_
    cases rule.combinator <;> rfl
  · exact (Fields.optional_of_get? (fills "conditions" (by decide))).2 (Reader.items_map conditions)
  · exact (Fields.optional_of_get? (fills "required_approvers" (by decide))).2 (Reader.texts_ofTexts _)
  · exact Fields.required_eq_accepted_iff.2 ⟨_, fills "created_at" (by decide), rfl⟩
  · exact Fields.required_eq_accepted_iff.2 ⟨_, fills "updated_at" (by decide), rfl⟩

/-- A value that a field of some sound rule has, and that the store keeps. -/
def Fits (name : String) (v : Value) : Prop :=
  ∃ rule : Rule, rule.Sound ∧ Fields.get? rule.fields name = some v ∧ v.storeFault? = none

end Rule

/-- A document each field of which a sound rule may have. -/
def Document.IsRule (document : Document) : Prop :=
  ∀ name ∈ Rule.fieldNames, ∃ v, Rule.Fits name v ∧ Fields.get? document name = some v.stored

/-- What the document of a rule says of the rule that is read from it. -/
structure Rule.ShownBy (rule : Rule) (document : Document) : Prop where
  reads : Rule.check document = .accepted rule
  enabled : Fields.get? document "is_enabled" = some (.bool rule.enabled)
  wholeName : Text.hasHalf rule.name = false
  demanding : rule.approvers ≠ []
  named : ∀ role ∈ rule.approvers, role ≠ ""
  whole : ∀ role ∈ rule.approvers, Text.hasHalf role = false

namespace Document

variable {document : Document} {rule : Rule}

/-- Giving one field of the document of a rule another value of a sound rule leaves the document of a rule. -/
theorem IsRule.put (isRule : document.IsRule) {name : String} {v : Value} (fits : Rule.Fits name v) :
    IsRule (Fields.put document name v.stored) := by
  intro other within
  rw [Fields.get?_put]
  by_cases same : name = other
  · subst same
    exact ⟨v, fits, if_pos rfl⟩
  · rw [if_neg same]
    exact isRule other within

/-- A field of the document of a rule is that of some sound rule. -/
theorem IsRule.field (isRule : document.IsRule) (name : String) (within : name ∈ Rule.fieldNames)
    {value : Rule → Value} (kept : ∀ rule : Rule, Fields.get? rule.fields name = some (value rule)) :
    ∃ rule : Rule, rule.Sound ∧ (value rule).storeFault? = none ∧
      Fields.get? document name = some (value rule).stored := by
  obtain ⟨v, ⟨rule, sound, here, fits⟩, known⟩ := isRule name within
  obtain rfl := Option.some.inj ((kept rule).symm.trans here)
  exact ⟨rule, sound, fits, known⟩

/-- The document of a rule is read as one that demands a role. -/
theorem IsRule.exists_shownBy (isRule : document.IsRule) : ∃ rule : Rule, rule.ShownBy document := by
  obtain ⟨r1, -, -, id⟩ := isRule.field "rule_id" (by decide) fun _ => rfl
  obtain ⟨r2, sound, called, name⟩ := isRule.field "name" (by decide) fun _ => rfl
  obtain ⟨r3, -, -, description⟩ := isRule.field "description" (by decide) fun _ => rfl
  obtain ⟨r4, -, -, priority⟩ := isRule.field "priority" (by decide) fun _ => rfl
  obtain ⟨r5, -, -, enabled⟩ := isRule.field "is_enabled" (by decide) fun _ => rfl
  obtain ⟨r6, -, -, combinator⟩ := isRule.field "combinator" (by decide) fun _ => rfl
  obtain ⟨r7, tested, -, conditions⟩ := isRule.field "conditions" (by decide) fun _ => rfl
  obtain ⟨r8, demands, fits, approvers⟩ := isRule.field "required_approvers" (by decide) fun _ => rfl
  obtain ⟨r9, -, -, createdAt⟩ := isRule.field "created_at" (by decide) fun _ => rfl
  obtain ⟨r10, -, -, updatedAt⟩ := isRule.field "updated_at" (by decide) fun _ => rfl
  rw [Condition.stored_values] at conditions
  rw [Value.stored_ofTexts] at approvers
  rw [Value.stored_ofText?] at description
  let mixed : Rule := ⟨r1.id, r2.name, r3.description, r4.priority, r5.enabled, r6.combinator, r7.conditions,
    r8.approvers, r9.createdAt.stored, r10.updatedAt.stored⟩
  have fills : mixed.Fills document := by
    simp only [Rule.Fills, Rule.fieldNames, List.forall_mem_cons]
    exact ⟨id, name, description, priority, enabled, combinator, conditions, approvers, createdAt, updatedAt, by simp⟩
  exact ⟨mixed, fills.check sound.name tested.conditions, enabled, Value.storeFault?_text_iff.1 called,
    demands.demanding, demands.named, Value.storeFault?_ofTexts_iff.1 fits⟩

/-- A sound rule that the store takes is kept as the document of a rule. -/
theorem isRule_of_admitted (sound : rule.Sound) (admitted : admissionFault? rule.document = none) :
    IsRule (kept rule.document) := by
  have fits {name : String} {v : Value} (known : Fields.get? rule.fields name = some v) :
      Fields.get? rule.document name = some v ∧ v.storeFault? = none := by
    have here : Fields.get? rule.document name = some v := by rw [Rule.document, Fields.get?_append, known]; rfl
    exact ⟨here, storeFault?_of_admitted name admitted here⟩
  have field {name : String} {v : Value} (known : Fields.get? rule.fields name = some v) :
      ∃ v, Rule.Fits name v ∧ Fields.get? (kept rule.document) name = some v.stored := by
    obtain ⟨here, fault⟩ := fits known
    exact ⟨v, ⟨rule, sound, known, fault⟩, by rw [kept, Fields.get?_storedFields, here]; rfl⟩
  simp only [IsRule, Rule.fieldNames, List.forall_mem_cons]
  exact ⟨field rfl, field rfl, field rfl, field rfl, field rfl, field rfl, field rfl, field rfl, field rfl,
    field rfl, by simp⟩

end Document

end Countersign
