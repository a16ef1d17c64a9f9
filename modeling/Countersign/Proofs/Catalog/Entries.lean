/-
Module: Countersign.Proofs.Catalog.Entries
Purpose: The rules that stand in the documents of the catalog, and what insertions and changes make of them.
Main exports: Rule.Stands, Rule.check_kept, Rule.Stands.fills, Rule.Stands.get?_given, RuleCatalog.WellKept,
  RuleCatalog.WellKept.eq_of_stands, RuleCatalog.WellKept.insert_cases, RuleCatalog.WellKept.replace,
  RuleCatalog.WellKept.remove
-/
import Countersign.Proofs.Catalog.Drafts
import Countersign.Proofs.Catalog.Matching
import Countersign.Proofs.Store.Entries

namespace Countersign

/-!
A document of the catalog stands for the rule that is read from it. A change gives it fields of another rule, all that
were sent or only the first of them, so the rule that then stands in it has each field from one of the two.
-/

theorem Value.ofTexts_injective : Function.Injective Value.ofTexts := by
  intro names others same
  have read := congrArg Reader.texts same
  rw [Reader.texts_ofTexts, Reader.texts_ofTexts] at read
  exact Checked.accepted.inj read

/-- Conditions that are read again are told apart by what they are written as. -/
theorem Condition.eq_of_values {conditions others : List Condition}
    (again : ∀ condition ∈ conditions, check condition.value = .accepted condition)
    (too : ∀ condition ∈ others, check condition.value = .accepted condition)
    (same : Value.list (conditions.map value) = .list (others.map value)) : conditions = others := by
  have read := Reader.items_map again
  rw [same, Reader.items_map too] at read
  exact (Checked.accepted.inj read).symm

namespace Rule

/-- A rule that is read from a document of the catalog, which is kept under its id. -/
structure Stands (rule : Rule) (document : Document) : Prop where
  isRule : document.IsRule
  reads : Rule.check document = .accepted rule
  identity : Fields.get? document Document.identity = some (.text rule.id)

/-- The rule as it is read again from the store, which keeps moments to the millisecond. -/
def kept (rule : Rule) : Rule :=
  { rule with createdAt := rule.createdAt.stored, updatedAt := rule.updatedAt.stored }

variable {rule new changed : Rule} {document : Document}

/-- A field that is offered by a rule is the rule's field of that name. -/
theorem get?_of_mem_fields {field : String × Value} (member : field ∈ rule.fields) :
    Fields.get? rule.fields field.1 = some field.2 := by
  simp only [fields, body, List.cons_append, List.nil_append, List.mem_cons, List.not_mem_nil, or_false] at member
  rcases member with rfl | rfl | rfl | rfl | rfl | rfl | rfl | rfl | rfl | rfl <;> rfl

/-! ### What is read again -/

/-- A rule has no moments but its times. -/
theorem stored_of_mem_body {field : String × Value} (member : field ∈ rule.body) : field.2.stored = field.2 := by
  simp only [body, List.mem_cons, List.not_mem_nil, or_false] at member
  rcases member with rfl | rfl | rfl | rfl | rfl | rfl | rfl | rfl <;>
    first
      | rfl
      | exact Value.stored_ofText? _
      | exact Condition.stored_values _
      | exact Value.stored_ofTexts _

theorem storedFields_body (rule : Rule) : Value.storedFields rule.body = rule.body := by
  simp only [body, Value.storedFields, Condition.stored_values, Value.stored_ofTexts, Value.stored_ofText?]
  rfl

/-- The fields of the rule that is read again are those of the rule as the store keeps them. -/
theorem fields_kept (rule : Rule) : rule.kept.fields = Value.storedFields rule.fields := by
  have parts : Value.storedFields rule.fields = Value.storedFields rule.body ++
      [("created_at", .moment rule.createdAt.stored), ("updated_at", .moment rule.updatedAt.stored)] := rfl
  rw [parts, storedFields_body]
  rfl

/-- A field of the document of a rule is kept as the store keeps its value. -/
theorem get?_kept {name : String} {v : Value} (known : Fields.get? rule.document name = some v) :
    Fields.get? (Document.kept rule.document) name = some v.stored := by
  rw [Document.kept, Fields.get?_storedFields, known]
  rfl

/-- The document of a rule as it is kept has the fields of the rule that is read again. -/
theorem kept_fills (rule : Rule) : rule.kept.Fills (Document.kept rule.document) := by
  intro name known
  have apart : "_id" ≠ name := by
    rintro rfl
    exact absurd known (by decide)
  have field : Fields.get? rule.document name = Fields.get? rule.fields name := by
    rw [document, Fields.get?_append, Fields.get?_cons, if_neg apart]
    exact Option.or_none
  rw [Document.kept, Fields.get?_storedFields, field, fields_kept, Fields.get?_storedFields]

/-- A rule whose name and conditions are read again from what they are written as is read from its document as it is
kept. -/
theorem check_kept (name : Reader.boundedText 1 (some maxName) (.text rule.name) = .accepted rule.name)
    (conditions : ∀ condition ∈ rule.conditions, Condition.check condition.value = .accepted condition) :
    Rule.check (Document.kept rule.document) = .accepted rule.kept := rule.kept_fills.check name conditions

/-- A sound rule that the store takes stands in its document as it is kept. -/
theorem kept_stands (sound : rule.Sound) (admitted : Document.admissionFault? rule.document = none) :
    rule.kept.Stands (Document.kept rule.document) :=
  ⟨Document.isRule_of_admitted sound admitted, check_kept sound.name sound.conditions,
    get?_kept (v := .text rule.id) rfl⟩

namespace Stands

variable (stands : rule.Stands document)

include stands

theorem ofDocument? : Rule.ofDocument? document = some rule := by rw [Rule.ofDocument?, stands.reads]

/-- The document has the fields of the rule: what the store keeps of a sound rule is read and written as it is. -/
theorem fills : rule.Fills document := by
  intro name known
  obtain ⟨v, ⟨other, sound, here, -⟩, found⟩ := stands.isRule name known
  have kept : Fields.get? other.kept.fields name = some v.stored := by
    rw [fields_kept, Fields.get?_storedFields, here]
    rfl
  have same := get?_fields_of_check (check_kept sound.name sound.conditions) stands.reads
    (found.trans (kept.symm.trans (other.kept_fills name known).symm))
  rw [found, same, kept]

theorem id : Fields.get? document "rule_id" = some (.text rule.id) := stands.fills _ (by decide)

theorem name : Fields.get? document "name" = some (.text rule.name) := stands.fills _ (by decide)

/-- A rule that stands in a document is sound where its roles are. -/
theorem sound (neat : rule.Neat) : rule.Sound :=
  ⟨name_of_check stands.reads, conditions_of_check stands.reads, neat.demanding,
    fun role member => (neat.roles role member).1⟩

/-- The store keeps the fields of a rule that stands in it once more. -/
theorem storable {field : String × Value} (member : field ∈ rule.body) : field.2.storeFault? = none := by
  have within : field ∈ rule.fields := List.mem_append_left _ member
  have known : field.1 ∈ fieldNames := List.mem_map_of_mem within
  obtain ⟨v, ⟨other, -, here, fits⟩, found⟩ := stands.isRule field.1 known
  have named : field.1 ∈ Fields.names rule.body := List.mem_map_of_mem member
  change field.1 ∈ Fields.names other.body at named
  obtain ⟨w, there⟩ := Option.isSome_iff_exists.1 (Fields.has_iff.2 named)
  rw [fields, Fields.get?_append, there] at here
  obtain rfl : w = v := Option.some.inj here
  rw [stands.fills _ known, get?_of_mem_fields within, stored_of_mem_body (Fields.mem_of_get? there)] at found
  rw [Option.some.inj found]
  exact fits

end Stands

/-- The catalog keys rules by their ids and their names. -/
theorem keyed : Keyed Stands (·.id) [("rule_id", (·.id)), ("name", (·.name))] where
  identity stands := stands.identity
  texts stands key member := by
    simp only [List.mem_cons, List.not_mem_nil, or_false] at member
    rcases member with rfl | rfl
    · exact stands.id
    · exact stands.name
  unique := ⟨_, List.mem_cons_self .., rfl⟩

/-- A document of rules that is kept under the id of its rule has a rule standing in it. -/
theorem exists_stands (isRule : document.IsRule)
    (identity : Fields.get? document Document.identity = Fields.get? document "rule_id") :
    ∃ rule : Rule, rule.Stands document := by
  obtain ⟨rule, shown⟩ := isRule.exists_shownBy
  refine ⟨rule, isRule, shown.reads, ?_⟩
  rw [identity]
  exact Fields.required_text_iff.1 (check_eq_accepted_iff.1 shown.reads).1

/-- The store keeps the names of the fields of a rule. -/
theorem nameKept {name : String} (known : name ∈ fieldNames) : Document.NameKept name := by
  have all : ∀ name ∈ fieldNames, Document.NameKept name := by decide +kernel
  exact all name known

/-- The store keeps a field of a rule where it keeps its value. -/
theorem fieldFault?_of_mem_body {field : String × Value} (member : field ∈ rule.body) :
    Document.fieldFault? field.1 field.2 = field.2.storeFault? := by
  have within : field ∈ rule.fields := List.mem_append_left _ member
  have known : field.1 ∈ fieldNames := List.mem_map_of_mem within
  exact Document.fieldFault?_of_nameKept (nameKept known) field.2

/-- What stands in a document that was given fields of another rule has these fields from that rule, and the others as
they were. -/
theorem Stands.get?_given (stands : rule.Stands document) {given : Fields}
    (offered : ∀ field ∈ given, field ∈ new.fields)
    (there : changed.Stands (Fields.putAll document (Value.storedFields given))) {name : String}
    (known : name ∈ fieldNames) :
    Fields.get? changed.fields name =
      if given.has name then Fields.get? new.kept.fields name else Fields.get? rule.fields name := by
  have read := Change.get?_putAll_storedFields (fun field member => get?_of_mem_fields (offered field member)) document
    name
  rw [← there.fills name known, read, fields_kept, Fields.get?_storedFields, stands.fills name known]

/-- A document that is given fields of a sound rule, but no other id, is one in which a rule stands again. -/
theorem Stands.given (stands : rule.Stands document) (sound : new.Sound) {given : Fields}
    (offered : ∀ field ∈ given, field ∈ new.fields) (storable : Change.StorableAll given)
    (fixed : given.has "rule_id" = false) :
    ∃ changed : Rule, changed.Stands (Fields.putAll document (Value.storedFields given)) ∧
      changed.id = rule.id ∧
      changed.name = (if given.has "name" then new.name else rule.name) ∧
      changed.approvers = (if given.has "required_approvers" then new.approvers else rule.approvers) ∧
      changed.enabled = (if given.has "is_enabled" then new.enabled else rule.enabled) ∧
      changed.conditions = (if given.has "conditions" then new.conditions else rule.conditions) := by
  have known : ∀ field ∈ given, Fields.get? new.fields field.1 = some field.2 := fun field member =>
    get?_of_mem_fields (offered field member)
  have read (name : String) := Change.get?_putAll_storedFields known document name
  have isRule : Document.IsRule (Fields.putAll document (Value.storedFields given)) := by
    intro name within
    rw [read]
    by_cases sent : given.has name = true
    · rw [if_pos sent]
      obtain ⟨v, found⟩ := Option.isSome_iff_exists.1 sent
      have member := Fields.mem_of_get? found
      have fits : v.storeFault? = none := by
        rw [← Document.fieldFault?_of_nameKept (nameKept within) v]
        exact storable _ member
      exact ⟨v, ⟨new, sound, known _ member, fits⟩, by rw [known _ member]; rfl⟩
    · rw [if_neg sent]
      exact stands.isRule name within
  have unidentified : given.has Document.identity = false := by
    rw [Fields.has, Option.isSome_eq_false_iff, Option.isNone_iff_eq_none]
    cases found : Fields.get? given Document.identity with
    | none => rfl
    | some v => cases known _ (Fields.mem_of_get? found)
  have identity : Fields.get? (Fields.putAll document (Value.storedFields given)) Document.identity =
      some (.text rule.id) := by
    rw [read, if_neg (by simp [unidentified]), stands.identity]
  have id : Fields.get? (Fields.putAll document (Value.storedFields given)) "rule_id" = some (.text rule.id) := by
    rw [read, if_neg (by simp [fixed]), stands.id]
  obtain ⟨changed, there⟩ := exists_stands isRule (identity.trans id.symm)
  have field (name : String) (known : name ∈ fieldNames) := stands.get?_given offered there known
  refine ⟨changed, there, ?_, ?_, ?_, ?_, ?_⟩
  · exact Value.text.inj (Option.some.inj (there.id.symm.trans id))
  · have called := field "name" (by decide)
    split_ifs at called ⊢ <;> exact Value.text.inj (Option.some.inj called)
  · have assigned := field "required_approvers" (by decide)
    split_ifs at assigned ⊢ <;> exact Value.ofTexts_injective (Option.some.inj assigned)
  · have switched := field "is_enabled" (by decide)
    split_ifs at switched ⊢ <;> exact Value.bool.inj (Option.some.inj switched)
  · have tests := field "conditions" (by decide)
    have again := conditions_of_check there.reads
    split_ifs at tests ⊢
    · exact Condition.eq_of_values again sound.conditions (Option.some.inj tests)
    · exact Condition.eq_of_values again (conditions_of_check stands.reads) (Option.some.inj tests)

end Rule

namespace RuleCatalog

/-- Documents of the catalog in which rules stand: the rules are neat, and no two share an id or a name. -/
structure WellKept (documents : Table) (rules : List Rule) : Prop where
  stands : List.Forall₂ Rule.Stands rules documents
  neat : ∀ rule ∈ rules, rule.Neat
  ids : (rules.map (·.id)).Nodup
  names : (rules.map (·.name)).Nodup

namespace WellKept

variable {documents before behind : Table} {rules front back : List Rule} {document after : Document}
  {rule changed : Rule}

theorem empty : WellKept [] [] := ⟨.nil, by simp, by simp, by simp⟩

/-- Every document is that of a rule. -/
theorem isRule (wellKept : WellKept documents rules) : ∀ document ∈ documents, document.IsRule := by
  intro document member
  obtain ⟨rule, -, stands⟩ := exists_of_mem_documents wellKept.stands member
  exact stands.isRule

/-- Nothing but its rules stands in the documents. -/
theorem eq_of_stands (wellKept : WellKept documents rules) {others : List Rule}
    (stands : List.Forall₂ Rule.Stands others documents) : others = rules :=
  List.left_unique_forall₂' (fun _ _ _ one two => Checked.accepted.inj (one.reads.symm.trans two.reads)) stands
    wellKept.stands

/-- The rules that are read from the documents are those that stand in them. -/
theorem filterMap_ofDocument? (wellKept : WellKept documents rules) :
    documents.filterMap Rule.ofDocument? = rules := by
  have stands := wellKept.stands
  clear wellKept
  induction stands with
  | nil => rfl
  | cons here _ ih => rw [List.filterMap_cons, here.ofDocument?, ih]

/-- Inserting a sound and neat rule leaves the catalog as it is, or puts the rule behind all others. -/
theorem insert_cases (wellKept : WellKept documents rules) (sound : rule.Sound) (neat : rule.Neat) :
    (∃ fault, Document.admissionFault? rule.document = some fault) ∨
    ((∃ other ∈ rules, other.id = rule.id ∨ other.name = rule.name) ∧
      Table.insert Collection.rules.uniqueKeys documents rule.document = ⟨documents, some .keyTaken⟩) ∨
    (WellKept (documents ++ [Document.kept rule.document]) (rules ++ [rule.kept]) ∧
      Table.insert Collection.rules.uniqueKeys documents rule.document =
        ⟨documents ++ [Document.kept rule.document], none⟩) := by
  cases admission : Document.admissionFault? rule.document with
  | some fault => exact Or.inl ⟨fault, rfl⟩
  | none =>
  refine Or.inr ?_
  rcases Rule.keyed.insert_cases wellKept.stands admission (Rule.kept_stands sound admission) with
    ⟨⟨other, within, key, known, same⟩, made⟩ | ⟨apart, stands, made⟩
  · refine Or.inl ⟨⟨other, within, ?_⟩, made⟩
    simp only [List.mem_cons, List.not_mem_nil, or_false] at known
    rcases known with rfl | rfl
    · exact Or.inl same
    · exact Or.inr same
  · refine Or.inr ⟨⟨stands, ?_, ?_, ?_⟩, made⟩
    · refine List.forall_mem_append.2 ⟨wellKept.neat, List.forall_mem_singleton.2 ?_⟩
      exact ⟨neat.name, neat.short, neat.demanding, neat.roles, neat.distinct⟩
    · exact nodup_concat wellKept.ids fun other within => apart other within _ (List.mem_cons_self ..)
    · exact nodup_concat wellKept.names fun other within => apart other within ("name", (·.name)) (by simp)

/-- A rule may be replaced by a neat one of the same id whose name no other rule has. -/
theorem replace (wellKept : WellKept (before ++ document :: behind) (front ++ rule :: back))
    (inFront : List.Forall₂ Rule.Stands front before) (inBack : List.Forall₂ Rule.Stands back behind)
    (stands : changed.Stands after) (same : changed.id = rule.id) (neat : changed.Neat)
    (alone : ∀ other ∈ front ++ back, other.name ≠ changed.name) :
    WellKept (before ++ after :: behind) (front ++ changed :: back) where
  stands := related_replace inFront stands inBack
  neat := by
    obtain ⟨early, -, late⟩ := List.forall_mem_append.1 wellKept.neat |>.imp_right List.forall_mem_cons.1
    exact List.forall_mem_append.2 ⟨early, List.forall_mem_cons.2 ⟨neat, late⟩⟩
  ids := nodup_replace wellKept.ids fun other within => same ▸ ne_of_nodup wellKept.ids other within
  names := nodup_replace wellKept.names alone

/-- What is left of a catalog is kept as well. -/
theorem remove (wellKept : WellKept documents rules) (query : Query) :
    ∃ left, left.Sublist rules ∧ WellKept (documents.dropFirst query) left := by
  have stands := wellKept.stands
  obtain ⟨left, fewer, rest⟩ : ∃ left, left.Sublist rules ∧
      List.Forall₂ Rule.Stands left (documents.dropFirst query) := by
    clear wellKept
    induction stands with
    | nil => exact ⟨[], .refl _, .nil⟩
    | @cons rule document rules documents here others ih =>
        unfold Table.dropFirst
        split
        · exact ⟨rules, List.sublist_cons_self .., others⟩
        · obtain ⟨left, fewer, rest⟩ := ih
          exact ⟨rule :: left, fewer.cons_cons rule, .cons here rest⟩
  exact ⟨left, fewer, rest, fun rule member => wellKept.neat rule (fewer.subset member),
    wellKept.ids.sublist (fewer.map _), wellKept.names.sublist (fewer.map _)⟩

end WellKept

end RuleCatalog

end Countersign
