/-
Module: Countersign.Proofs.Catalog.Matching
Purpose: Which rules of the stored catalog a ticket triggers, and what evaluating the ticket answers.
Main exports: Rule.ofDocument?, Rule.Triggered, RuleStore.listed, RuleStore.exec_select_wanted,
  RuleStore.exec_list_cataloged, Routing.exec_resolve
-/
import Countersign.Proofs.Commands.Catalog

namespace Countersign

open Service

/-!
The enabled rules are picked by the store, sorted there, sorted once more and then tried. Where every document of
the catalog is that of a rule, none is passed over on this way, so what is left are exactly the enabled rules of the
catalog that hold, by priority and id.
-/

/-- The rule that a document is read as, if it is one. -/
def Rule.ofDocument? (document : Document) : Option Rule :=
  match Rule.check document with
  | .accepted rule => some rule
  | .refused _ => none

theorem Rule.ofDocument?_eq_some_iff {rule : Rule} {document : Document} :
    ofDocument? document = some rule ↔ Rule.check document = .accepted rule := by
  unfold ofDocument?
  cases Rule.check document <;> simp

theorem Rule.ShownBy.ofDocument? {rule : Rule} {document : Document} (shown : rule.ShownBy document) :
    Rule.ofDocument? document = some rule := by rw [Rule.ofDocument?, shown.reads]

/-- The rules of a catalog that hold on facts: these rules and no others, each as often as the catalog has it, by
priority and id. -/
structure Rule.Triggered (catalog : List Rule) (facts : Fields) (rules : List Rule) : Prop where
  exactly : rules.Perm (catalog.filter (Rule.triggeredBy facts))
  ordered : rules.Pairwise fun first second => first.before second = true

namespace Rule.Triggered

variable {catalog rules : List Rule} {facts : Fields}

theorem mem_iff (triggered : Triggered catalog facts rules) {rule : Rule} :
    rule ∈ rules ↔ rule ∈ catalog ∧ rule.triggeredBy facts = true := by
  rw [triggered.exactly.mem_iff, List.mem_filter]

end Rule.Triggered

/-- The store asks for the truth value alone. -/
theorem Query.decides_bool (name : String) (b : Bool) :
    Decides (field name (.bool b)) fun document => document.meets name (.bool b) := fun _ => rfl

namespace RuleStore

/-- Whether the store takes a document for that of an enabled rule. -/
def picks (document : Document) : Bool := document.meets "is_enabled" (.bool true)

/-- The documents that are asked for: all, or those of enabled rules. -/
def asked (enabledOnly : Bool) (documents : List Document) : List Document :=
  match enabledOnly with
  | true => documents.filter picks
  | false => documents

/-- Documents by what is written in them of priority and id. -/
def sorted (documents : List Document) : List Document :=
  documents.mergeSort (Document.noLaterThan [⟨"priority", false⟩, ⟨"rule_id", false⟩])

/-- The rules that are read from some documents, in the order in which the store lists these. -/
def listed (documents : List Document) : List Rule := (sorted documents).filterMap Rule.ofDocument?

theorem mem_sorted_iff {documents : List Document} {document : Document} :
    document ∈ sorted documents ↔ document ∈ documents := List.mem_mergeSort

theorem perm_listed (documents : List Document) : (listed documents).Perm (documents.filterMap Rule.ofDocument?) :=
  (List.mergeSort_perm documents _).filterMap _

/-- The store finds the documents that are asked for and sorts them. -/
theorem exec_select_wanted {s : ServiceState} (up : s.down = false) (enabledOnly : Bool) :
    exec (select .rules (wanted enabledOnly) [⟨"priority", false⟩, ⟨"rule_id", false⟩]) s =
      (.ok (sorted (asked enabledOnly s.store.rules)), s) := by
  cases enabledOnly with
  | true =>
      have decides : Query.Decides (wanted true) picks := Query.decides_bool "is_enabled" true
      rw [exec_select .rules up (Table.select_eq decides _ _)]
      exact exec_found_ok _ _
  | false =>
      have decides : Query.Decides (wanted false) fun _ => true := fun _ => rfl
      rw [exec_select .rules up (Table.select_eq decides _ _), List.filter_true]
      exact exec_found_ok _ _

/-- Documents of rules are all read, with nothing to note. -/
theorem exec_readAll {documents : List Document} (rules : ∀ document ∈ documents, Document.IsRule document)
    (s : ServiceState) : exec (readAll documents) s = (.ok (documents.filterMap Rule.ofDocument?), s) := by
  induction documents with
  | nil => rfl
  | cons document rest ih =>
      obtain ⟨here, others⟩ := List.forall_mem_cons.1 rules
      obtain ⟨rule, shown⟩ := here.exists_shownBy
      have read : exec (read? document) s = (.ok (some rule), s) := by
        rw [read?, shown.reads]
        rfl
      rw [readAll, exec_bind_ok read, exec_bind_ok (ih others), List.filterMap_cons, shown.ofDocument?]
      rfl

/-- The documents that the store picks are those of the enabled rules. -/
theorem filterMap_picks {documents : List Document} (rules : ∀ document ∈ documents, Document.IsRule document) :
    (documents.filter picks).filterMap Rule.ofDocument? =
      (documents.filterMap Rule.ofDocument?).filter (·.enabled) := by
  induction documents with
  | nil => rfl
  | cons document rest ih =>
      obtain ⟨here, others⟩ := List.forall_mem_cons.1 rules
      obtain ⟨rule, shown⟩ := here.exists_shownBy
      have picked : picks document = rule.enabled := by
        simp [picks, Document.meets, Fields.getD, shown.enabled]
      rw [List.filter_cons, picked, List.filterMap_cons, shown.ofDocument?]
      cases enabled : rule.enabled with
      | false => simp [ih others, enabled]
      | true => simp [ih others, enabled, shown.ofDocument?]

/-- Of a catalog that the service has written the rules that are asked for are listed, with nothing to note. -/
theorem exec_list_cataloged {s : ServiceState} (up : s.down = false) (cataloged : s.Cataloged) (enabledOnly : Bool) :
    exec (list enabledOnly) s = (.ok (listed (asked enabledOnly s.store.rules)), s) := by
  rw [list, exec_bind_ok (exec_select_wanted up enabledOnly)]
  refine exec_readAll (fun document member => ?_) s
  have within := mem_sorted_iff.1 member
  cases enabledOnly with
  | true => exact cataloged document (List.mem_filter.1 within).1
  | false => exact cataloged document within

/-- All rules are listed. -/
theorem exec_list_all {s : ServiceState} (up : s.down = false) (cataloged : s.Cataloged) :
    ∃ rules, rules.Perm (s.store.rules.filterMap Rule.ofDocument?) ∧ exec (list false) s = (.ok rules, s) :=
  ⟨_, perm_listed _, exec_list_cataloged up cataloged false⟩

end RuleStore

namespace Routing

theorem exec_noteComplaints (facts : Fields) (conditions : List Condition) (s : ServiceState) :
    ∃ journal, exec (noteComplaints facts conditions) s = (.ok (), { s with journal }) := by
  induction conditions generalizing s with
  | nil => exact ⟨_, rfl⟩
  | cons condition rest ih =>
      rw [noteComplaints]
      cases condition.complaint? facts with
      | none => exact ih s
      | some complaint =>
          obtain ⟨journal, noted⟩ := exec_note .warning .evaluation complaint [] false s
          obtain ⟨later, others⟩ := ih { s with journal }
          exact ⟨later, (exec_bind_ok noted _).trans others⟩

/-- Noting how rules fared only writes to the journal. -/
theorem exec_noteMatches (facts : Fields) (rules : List Rule) (s : ServiceState) :
    ∃ journal, exec (noteMatches facts rules) s = (.ok (), { s with journal }) := by
  induction rules generalizing s with
  | nil => exact ⟨_, rfl⟩
  | cons rule rest ih =>
      rw [noteMatches]
      split
      · obtain ⟨journal, complained⟩ := exec_noteComplaints facts rule.conditions s
        rw [exec_bind_ok complained]
        split
        · obtain ⟨later, noted⟩ := exec_note .debug .matching s!"Rule matched: {rule.name}"
            [("rule_id", .text rule.id)] false { s with journal }
          obtain ⟨last, others⟩ := ih { s with journal := later }
          exact ⟨last, (exec_bind_ok noted _).trans others⟩
        · exact ih { s with journal }
      · exact ih s

/-- A ticket is resolved by the rules of the catalog that hold on its facts, whatever is in the journal. -/
theorem exec_resolve {s : ServiceState} (up : s.down = false) (cataloged : s.Cataloged) (ticket : Ticket) :
    ∃ rules, Rule.Triggered (s.store.rules.filterMap Rule.ofDocument?) ticket.facts rules ∧
      ∀ journal, ∃ later, exec (resolve ticket) { s with journal } =
        (.ok (ticket.facts, Requirements.ofRules rules), { s with journal := later }) := by
  let enabled := RuleStore.listed (RuleStore.asked true s.store.rules)
  have perm : enabled.Perm ((s.store.rules.filterMap Rule.ofDocument?).filter (·.enabled)) :=
    RuleStore.filterMap_picks cataloged ▸ RuleStore.perm_listed _
  refine ⟨Rule.matching enabled ticket.facts, ⟨?_, Rule.pairwise_matching enabled _⟩, fun journal => ?_⟩
  · refine ((Rule.matching_perm enabled _).trans (perm.filter _)).trans ?_
    rw [List.filter_filter]
    refine List.Perm.of_eq (List.filter_congr fun rule _ => ?_)
    rw [Rule.triggeredBy]
    cases rule.enabled <;> simp
  · obtain ⟨early, noted⟩ := exec_note .debug .facts
      s!"Built {ticket.facts.length} facts for ticket {ticket.id}" [("ticket_id", .text ticket.id)] false
      { s with journal }
    have facts : exec (factsOf ticket) { s with journal } = (.ok ticket.facts, { s with journal := early }) :=
      exec_bind_ok noted _
    obtain ⟨later, matched⟩ := exec_noteMatches ticket.facts (Rule.ordered enabled) { s with journal := early }
    have selected : exec (RuleStore.list true) { s with journal := early } =
        (.ok enabled, { s with journal := early }) :=
      RuleStore.exec_list_cataloged (s := { s with journal := early }) up cataloged true
    refine ⟨later, ?_⟩
    rw [resolve, exec_bind_ok facts, exec_bind_ok selected, exec_bind_ok matched]
    rfl

end Routing

end Countersign
