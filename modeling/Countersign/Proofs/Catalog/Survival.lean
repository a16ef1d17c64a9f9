/-
Module: Countersign.Proofs.Catalog.Survival
Purpose: A rule that was added to a catalog, whatever else is in it, is read again as it was, but for its times.
Main exports: RuleStore.Grown, RuleStore.grown_of_add, RuleStore.ReadBack, RuleStore.Grown.readBack,
  RuleStore.survival
-/
import Countersign.Proofs.Catalog.Authored
import Countersign.Proofs.Catalog.Listing

namespace Countersign

open Service

/-!
The store keeps a rule as a document of fields, which says nothing of what was a condition, and reads it through the
check that every rule must pass. Nothing is asked of the catalog that the rule is added to: it may hold documents that
are no rules, or rules of one name. But the addition has succeeded, so no other document has the id of the rule, and
whoever asks for that id is given the new document. What is read from it is the rule, with times that are universal
time cut to the millisecond, so the two hold on the same facts.
-/

namespace RuleStore

variable {s s' : ServiceState} {rule : Rule}

/-! ### Adding a rule to any catalog -/

/-- The store has grown by a rule: its document stands behind all others, and no other document has its id. -/
structure Grown (before after : ServiceState) (rule : Rule) : Prop where
  up : after.down = false
  rules : after.store.rules = before.store.rules ++ [Document.kept rule.document]
  alone : ∀ other ∈ before.store.rules, Document.meets other "rule_id" (.text rule.id) = false

/-- Where a rule was added, the store has grown by it. -/
theorem grown_of_add {added : Rule} (ran : exec (add rule) s = (.ok added, s')) : added = rule ∧ Grown s s' rule := by
  rw [add] at ran
  obtain ⟨inserted, between, made, ran⟩ := exists_of_exec_bind ran
  have id : Fields.get? (Document.kept rule.document) "rule_id" = some (.text rule.id) :=
    Rule.get?_kept (v := .text rule.id) rfl
  have name : Fields.get? (Document.kept rule.document) "name" = some (.text rule.name) :=
    Rule.get?_kept (v := .text rule.name) rfl
  have texts : Table.HasTexts (Document.kept rule.document) Collection.rules.uniqueKeys := by
    simp only [Table.HasTexts, Collection.uniqueKeys, List.forall_mem_cons]
    exact ⟨⟨_, id⟩, ⟨_, name⟩, by simp⟩
  cases inserted with
  | false => cases ran
  | true =>
      obtain ⟨up, free, rfl⟩ := of_exec_insert texts made
      obtain ⟨_, after, noted, done⟩ := exists_of_exec_bind ran
      cases noted
      cases done
      exact ⟨rfl, up, rfl, Table.alone_of_free free (by decide) id⟩

namespace Grown

variable (grown : Grown s s' rule) (reads : Rule.check (Document.kept rule.document) = .accepted rule.kept)

/-! ### Reading it again -/

include grown

/-- The rule that is read from a document that was there before has another id. -/
theorem others : ∀ other ∈ s.store.rules.filterMap Rule.ofDocument?, other.id ≠ rule.id := by
  intro other member same
  obtain ⟨document, within, read⟩ := List.mem_filterMap.1 member
  have id := Fields.required_text_iff.1 (Rule.check_eq_accepted_iff.1 (Rule.ofDocument?_eq_some_iff.1 read)).1
  have apart := grown.alone document within
  rw [Document.meets, Fields.getD, id, same] at apart
  simp at apart

include reads

theorem exec_get : exec (get (.text rule.id)) s' = (.ok rule.kept, s') := by
  have looked : (s'.store.table .rules).find? (withId (.text rule.id)) = .ok (some (Document.kept rule.document)) := by
    rw [show s'.store.table .rules = _ from grown.rules]
    exact Table.find?_of_alone grown.alone (Rule.get?_kept (v := .text rule.id) rfl)
  have read : exec (read? (Document.kept rule.document)) s' = (.ok (some rule.kept), s') := by
    rw [read?, reads]
    rfl
  rw [get, find?, bind_assoc, exec_bind_ok (exec_findOne grown.up looked), exec_bind_ok read]
  rfl

/-- Among the rules that are listed, of all documents or of those that the store picks, the new one alone has its id. -/
theorem filter_listed (enabledOnly : Bool) :
    (listed (asked enabledOnly s'.store.rules)).filter (·.id == rule.id) =
      if enabledOnly && !rule.enabled then [] else [rule.kept] := by
  have picked : picks (Document.kept rule.document) = rule.enabled := by
    have known : Fields.get? (Document.kept rule.document) "is_enabled" = some (.bool rule.enabled) :=
      Rule.get?_kept (v := .bool rule.enabled) rfl
    rw [picks, Document.meets, Fields.getD, known, Option.getD_some, Value.meets_bool, beq_true]
  have parts : asked enabledOnly s'.store.rules = asked enabledOnly s.store.rules ++
      if enabledOnly && !rule.enabled then [] else [Document.kept rule.document] := by
    rw [grown.rules]
    cases enabledOnly with
    | false => rfl
    | true =>
        simp only [asked, List.filter_append, List.filter_singleton, picked]
        cases rule.enabled <;> rfl
  have front : ((asked enabledOnly s.store.rules).filterMap Rule.ofDocument?).filter (·.id == rule.id) = [] := by
    refine List.filter_eq_nil_iff.2 fun other member => ?_
    obtain ⟨document, within, read⟩ := List.mem_filterMap.1 member
    have there : document ∈ s.store.rules := by
      cases enabledOnly with
      | false => exact within
      | true => exact (List.mem_filter.1 within).1
    simpa using grown.others other (List.mem_filterMap.2 ⟨document, there, read⟩)
  have read := Rule.ofDocument?_eq_some_iff.2 reads
  have perm := (perm_listed (asked enabledOnly s'.store.rules)).filter (·.id == rule.id)
  rw [parts, List.filterMap_append, List.filter_append, front, List.nil_append, ← parts] at perm
  split_ifs at perm ⊢
  · exact perm.eq_nil
  · rw [List.filterMap_cons, read] at perm
    exact List.perm_singleton.1 (perm.trans (.of_eq (by simp [Rule.kept])))

end Grown

/-- A rule that was added is read again, by its id and among all rules and the enabled ones: with every field as it was,
but its times cut to whole milliseconds of universal time, and it holds where the rule that was added does. -/
structure ReadBack (rule read : Rule) (s : ServiceState) : Prop where
  same : read = { rule with
    createdAt := ⟨rule.createdAt.utc / 1000 * 1000, none⟩, updatedAt := ⟨rule.updatedAt.utc / 1000 * 1000, none⟩ }
  got : exec (get (.text rule.id)) s = (.ok read, s)
  listed : ∃ all journal, exec (list false) s = (.ok all, { s with journal }) ∧
    all.filter (·.id == rule.id) = [read]
  tried : ∃ enabled journal, exec (list true) s = (.ok enabled, { s with journal }) ∧
    enabled.filter (·.id == rule.id) = (if rule.enabled then [read] else []) ∧
    ∀ facts, read ∈ Rule.matching enabled facts ↔ rule.triggeredBy facts = true
  triggered : ∀ facts, read.triggeredBy facts = rule.triggeredBy facts

/-- A rule that was checked is read back from a store that has grown by it. -/
theorem Grown.readBack (grown : Grown s s' rule) {fields : Fields} (checked : Rule.check fields = .accepted rule) :
    ReadBack rule rule.kept s' := by
  have reads := Rule.check_kept (Rule.name_of_check checked) (Rule.conditions_of_check checked)
  obtain ⟨early, all⟩ := exec_list grown.up false
  obtain ⟨late, enabled⟩ := exec_list grown.up true
  have chosen := grown.filter_listed reads true
  refine ⟨rfl, grown.exec_get reads, ⟨_, early, all, grown.filter_listed reads false⟩, ⟨_, late, enabled, ?_, ?_⟩,
    fun _ => rfl⟩
  · rw [chosen]
    cases rule.enabled <;> rfl
  · intro facts
    rw [(Rule.matching_perm _ _).mem_iff, List.mem_filter]
    refine ⟨fun tried => tried.2, fun triggered => ⟨?_, triggered⟩⟩
    -- A rule that is triggered is enabled, so it is among those that are listed.
    have on : rule.enabled = true := (Bool.and_eq_true_iff.1 triggered).1
    have member : rule.kept ∈ (RuleStore.listed (asked true s'.store.rules)).filter (·.id == rule.id) := by
      rw [chosen, on]
      exact List.mem_singleton_self _
    exact (List.mem_filter.1 member).1

/-- A rule that was created is read back. -/
theorem readBack_of_create {sent : RuleCatalog.NewRule} (ran : exec (RuleCatalog.create sent) s = (.ok rule, s')) :
    ReadBack rule rule.kept s' := by
  obtain ⟨time, s1, -, ran⟩ := exists_of_exec_bind ran
  obtain ⟨id, s2, -, ran⟩ := exists_of_exec_bind ran
  obtain ⟨built, s3, made, ran⟩ := exists_of_exec_bind ran
  obtain ⟨-, s4, -, ran⟩ := exists_of_exec_bind ran
  rw [RuleCatalog.exec_build] at made
  obtain ⟨rfl, grown⟩ := grown_of_add ran
  exact grown.readBack (RuleDraft.built_of_build (congrArg Prod.fst made)).read

/-- Whatever the catalog holds, a rule that was created, or that was checked and then added, is read back. -/
theorem survival :
    (∀ {s s' : ServiceState} {sent : RuleCatalog.NewRule} {rule : Rule},
      exec (RuleCatalog.create sent) s = (.ok rule, s') → ∃ read, ReadBack rule read s') ∧
    ∀ {s s' : ServiceState} {fields : Fields} {rule added : Rule}, Rule.check fields = .accepted rule →
      exec (add rule) s = (.ok added, s') → added = rule ∧ ∃ read, ReadBack rule read s' := by
  refine ⟨fun ran => ⟨_, readBack_of_create ran⟩, fun checked ran => ?_⟩
  obtain ⟨same, grown⟩ := grown_of_add ran
  exact ⟨same, _, grown.readBack checked⟩

end RuleStore

/-- A moment cut to whole milliseconds, with the offset that it has. -/
def Moment.cut (m : Moment) : Moment := { m with wall := m.wall / 1000 * 1000 }

namespace Trial

/-- A rule that asks for a quantity in a list of numbers and texts. -/
def sentRule : RuleCatalog.NewRule where
  name := .text "Odd quantity"
  approvers := .ofTexts ["CFO"]
  conditions := .list [.record [("field", .text "quantity"), ("operator", .text "in"),
    ("values", .list [.int 1, .bool true, .text "1"])]]

end Trial

namespace RuleStore

/-- A time of whole milliseconds is not read back as it was: the offset is gone. -/
theorem survival_without_offset :
    ∃ rule s' read, exec (RuleCatalog.create Trial.sentRule) Trial.silentCatalog = (.ok rule, s') ∧
      exec (get (.text rule.id)) s' = (.ok read, s') ∧
      rule.createdAt.cut = rule.createdAt ∧ read.createdAt.cut ≠ rule.createdAt.cut := by
  obtain ⟨rule, s', ran, time⟩ := exists_of_answer (RuleCatalog.create Trial.sentRule) Trial.silentCatalog
    (fun rule => rule.createdAt == ⟨0, some 0⟩) (by decide +kernel)
  have created : rule.createdAt = ⟨0, some 0⟩ := by simpa using time
  refine ⟨rule, s', rule.kept, ran, (readBack_of_create ran).got, ?_, ?_⟩
  · rw [created]
    decide
  · change rule.createdAt.stored.cut ≠ rule.createdAt.cut
    rw [created]
    decide

/-- The rule is created in a catalog with a document that leaves out a field, and holds on the same facts when it is
read back. -/
theorem survival_of_sentRule :
    ∃ rule s', exec (RuleCatalog.create Trial.sentRule) Trial.silentCatalog = (.ok rule, s') ∧
      rule.conditions = [.member "quantity" .isIn [.int 1, .bool true, .text "1"]] ∧
      ∃ read, ReadBack rule read s' := by
  obtain ⟨rule, s', ran, tested⟩ := exists_of_answer (RuleCatalog.create Trial.sentRule) Trial.silentCatalog
    (fun rule => rule.conditions == [.member "quantity" .isIn [.int 1, .bool true, .text "1"]]) (by decide +kernel)
  exact ⟨rule, s', ran, by simpa using tested, survival.1 ran⟩

end RuleStore

end Countersign
