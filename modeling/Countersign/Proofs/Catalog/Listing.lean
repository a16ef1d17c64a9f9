/-
Module: Countersign.Proofs.Catalog.Listing
Purpose: When the rules that are listed as enabled are the rules that are tried.
Main exports: RuleStore.exec_list, Document.Plain, RuleStore.pairwise_listed, RuleStore.matching_eq_iff,
  RuleStore.matching_listed_iff
-/
import Countersign.Proofs.Catalog.Matching
import Countersign.Proofs.Catalog.Ordering
import Mathlib.Data.List.Pairwise

namespace Countersign

open Service

/-!
Two lists are taken of a catalog: all rules, for those who keep it, and the enabled ones, which are tried on tickets.
The store picks and sorts documents by the values that are written in them, but whether a rule is enabled, and which
priority it has, is what is read from its document. The two differ where a document leaves a field out or words it in
another way: a rule whose document says nothing of it, or `yes`, is read as enabled and never tried. So the enabled
rules that hold are tried exactly as they are listed where the store picks each of their documents and lists their
rules in order, and that is so wherever documents have the kinds of values that the service writes.
-/

namespace RuleStore

/-! ### What is listed -/

/-- Documents that are no rules are passed over; what is said of them is written to the journal. -/
theorem exec_readAll_passing (documents : List Document) (s : ServiceState) :
    ∃ journal, exec (readAll documents) s = (.ok (documents.filterMap Rule.ofDocument?), { s with journal }) := by
  induction documents generalizing s with
  | nil => exact ⟨s.journal, rfl⟩
  | cons document rest ih =>
      have read : ∃ journal, exec (read? document) s = (.ok (Rule.ofDocument? document), { s with journal }) := by
        rw [read?, Rule.ofDocument?]
        cases Rule.check document with
        | accepted rule => exact ⟨s.journal, rfl⟩
        | refused faults => exact ⟨_, rfl⟩
      obtain ⟨early, here⟩ := read
      obtain ⟨later, others⟩ := ih { s with journal := early }
      refine ⟨later, ?_⟩
      rw [readAll, exec_bind_ok here, exec_bind_ok others, List.filterMap_cons]
      cases Rule.ofDocument? document <;> rfl

/-- Whatever the catalog has in it, the rules that are asked for are listed. -/
theorem exec_list {s : ServiceState} (up : s.down = false) (enabledOnly : Bool) :
    ∃ journal, exec (list enabledOnly) s = (.ok (listed (asked enabledOnly s.store.rules)), { s with journal }) := by
  obtain ⟨journal, read⟩ := exec_readAll_passing (sorted (asked enabledOnly s.store.rules)) s
  exact ⟨journal, (exec_bind_ok (exec_select_wanted up enabledOnly) _).trans read⟩

/-! ### Documents that tell rules apart -/

variable {documents : List Document} {facts : Fields}

/-- Rules that are told apart have a document each. -/
theorem eq_of_apart (apart : Rule.Apart (documents.filterMap Rule.ofDocument?)) {one two : Document} {rule : Rule}
    (here : one ∈ documents) (there : two ∈ documents) (first : Rule.ofDocument? one = some rule)
    (second : Rule.ofDocument? two = some rule) : one = two := by
  have told := List.pairwise_filterMap.1 (List.pairwise_map.1 apart)
  have : Std.Symm fun one two : Document => ∀ rule, Rule.ofDocument? one = some rule →
      ∀ other, Rule.ofDocument? two = some other → Text.codes rule.id ≠ Text.codes other.id :=
    ⟨fun _ _ differ rule known other found => (differ other found rule known).symm⟩
  by_contra different
  exact told.forall here there different rule first rule second rfl

/-- Rules that the store picks and rules that it lists: those that hold are the same in the same order exactly where the
store picks the document of each of them and has them in order. -/
theorem matching_eq_iff (apart : Rule.Apart (documents.filterMap Rule.ofDocument?)) :
    Rule.matching (listed (documents.filter picks)) facts = (listed documents).filter (Rule.triggeredBy facts) ↔
      (∀ document ∈ documents, ∀ rule, Rule.ofDocument? document = some rule → rule.triggeredBy facts = true →
        picks document = true) ∧
      ((listed documents).filter (Rule.triggeredBy facts)).Pairwise fun first second => first.before second = true := by
  constructor
  · intro same
    refine ⟨fun document member rule read holds => ?_, same ▸ Rule.pairwise_matching _ _⟩
    have shown : rule ∈ (listed documents).filter (Rule.triggeredBy facts) :=
      List.mem_filter.2 ⟨(perm_listed documents).mem_iff.2 (List.mem_filterMap.2 ⟨document, member, read⟩), holds⟩
    rw [← same, (Rule.matching_perm _ _).mem_iff, List.mem_filter, (perm_listed _).mem_iff] at shown
    obtain ⟨other, within, found⟩ := List.mem_filterMap.1 shown.1
    obtain ⟨there, picked⟩ := List.mem_filter.1 within
    rwa [eq_of_apart apart member there read found]
  · rintro ⟨complete, ordered⟩
    -- What the store does not pick does not hold, so leaving it out changes nothing.
    have kept : ((documents.filter picks).filterMap Rule.ofDocument?).filter (Rule.triggeredBy facts) =
        (documents.filterMap Rule.ofDocument?).filter (Rule.triggeredBy facts) := by
      rw [List.filterMap_filter, List.filter_filterMap, List.filter_filterMap]
      refine List.filterMap_congr fun document member => ?_
      cases read : Rule.ofDocument? document with
      | none => simp
      | some rule =>
          cases holds : rule.triggeredBy facts with
          | true => rw [if_pos (complete document member rule read holds)]
          | false => cases picks document <;> simp [Option.filter, holds]
    have perm : (Rule.matching (listed (documents.filter picks)) facts).Perm
        ((listed documents).filter (Rule.triggeredBy facts)) :=
      (Rule.matching_perm _ _).trans <| ((perm_listed _).filter _).trans <|
        (List.Perm.of_eq kept).trans ((perm_listed documents).filter _).symm
    have told : Rule.Apart ((listed documents).filter (Rule.triggeredBy facts)) :=
      (apart.perm (perm_listed documents)).sublist List.filter_sublist
    exact (told.eq_of_perm perm.symm ordered (Rule.pairwise_matching _ _)).symm

end RuleStore

/-! ### Documents in the kinds of values that are written -/

/-- A document with an id, a priority and a word on whether the rule is enabled, each of the kind that a rule is written
with. Whatever else is wrong with it. -/
structure Document.Plain (document : Document) : Prop where
  id : ∃ s, Fields.get? document "rule_id" = some (.text s)
  priority : ∃ n, Fields.get? document "priority" = some (.int n)
  enabled : ∃ b, Fields.get? document "is_enabled" = some (.bool b)

namespace Document

variable {document other : Document}

/-- The place among rules that is written in a document. -/
def place (document : Document) : Rule.Place :=
  (match Fields.get? document "priority" with
    | some (.int n) => n
    | _ => 0,
  match Fields.get? document "rule_id" with
    | some (.text s) => s
    | _ => "")

/-- The documents of rules are plain. -/
theorem IsRule.plain (isRule : document.IsRule) : document.Plain := by
  obtain ⟨one, -, -, id⟩ := isRule.field "rule_id" (by decide) fun _ => rfl
  obtain ⟨two, -, -, priority⟩ := isRule.field "priority" (by decide) fun _ => rfl
  obtain ⟨three, -, -, enabled⟩ := isRule.field "is_enabled" (by decide) fun _ => rfl
  exact ⟨⟨_, id⟩, ⟨_, priority⟩, ⟨_, enabled⟩⟩

namespace Plain

/-- Of a plain document a rule is read that has the place written there, and is enabled where the store picks it. -/
theorem reads (plain : document.Plain) {rule : Rule} (read : Rule.ofDocument? document = some rule) :
    rule.place = document.place ∧ rule.enabled = RuleStore.picks document := by
  obtain ⟨s, id⟩ := plain.id
  obtain ⟨n, priority⟩ := plain.priority
  obtain ⟨b, enabled⟩ := plain.enabled
  have checked := Rule.ofDocument?_eq_some_iff.1 read
  obtain ⟨readId, -, -, readPriority, readEnabled, -⟩ := Rule.check_eq_accepted_iff.1 checked
  have sameId := (Fields.required_text_iff.1 readId).symm.trans id
  have samePriority := (Fields.optional_of_get? priority).1 readPriority
  have sameEnabled := (Fields.optional_of_get? enabled).1 readEnabled
  constructor
  · rw [Rule.place, place, id, priority]
    exact Prod.ext (Checked.accepted.inj samePriority).symm (Value.text.inj (Option.some.inj sameId))
  · rw [RuleStore.picks, meets, Fields.getD, enabled]
    simp [(Checked.accepted.inj sameEnabled).symm]

/-- The store sorts plain documents by the places written in them. -/
theorem noLaterThan_eq (one : document.Plain) (two : other.Plain) :
    noLaterThan [⟨"priority", false⟩, ⟨"rule_id", false⟩] document other = document.place.upTo other.place := by
  obtain ⟨s, id⟩ := one.id
  obtain ⟨n, priority⟩ := one.priority
  obtain ⟨t, otherId⟩ := two.id
  obtain ⟨m, otherPriority⟩ := two.priority
  simp only [noLaterThan, precedesBy, Fields.getD, place, id, priority, otherId, otherPriority, Option.getD_some,
    Bool.false_eq_true, if_false, valuePrecedes_int, valuePrecedes_text, Rule.Place.upTo, decide_eq_true_eq]
  have ids : (if (Text.order s t == .lt) = true then true
      else if (Text.order t s == .lt) = true then false else true) = Text.upTo s t := by
    rw [Text.upTo, ← Text.order_swap s t]
    cases Text.order s t <;> rfl
  rcases Int.lt_trichotomy n m with less | same | more
  · simp [less]
  · simp only [same, Int.lt_irrefl, if_false, ids]
    simp
  · simp [more, Int.not_lt.2 (Int.le_of_lt more), Int.ne_of_gt more]

end Plain

end Document

namespace RuleStore

variable {documents : List Document} {facts : Fields}

/-- From plain documents rules are listed in the order in which rules are tried. -/
theorem pairwise_listed (plain : ∀ document ∈ documents, document.Plain) :
    (listed documents).Pairwise fun first second => first.before second = true := by
  have places : (sorted documents).map Document.place = (documents.map Document.place).mergeSort Rule.Place.upTo :=
    List.map_mergeSort fun one here two there => (plain one here).noLaterThan_eq (plain two there)
  have ordered : (sorted documents).Pairwise fun one two => one.place.upTo two.place = true := by
    rw [← List.pairwise_map (f := Document.place) (R := fun one two => Rule.Place.upTo one two = true), places]
    exact @List.pairwise_mergeSort _ Rule.Place.upTo (fun _ _ _ => Rule.Place.upTo_trans) Rule.Place.upTo_total _
  rw [listed, List.pairwise_filterMap]
  refine ordered.imp_of_mem fun {one two} here there early first firstRead second secondRead => ?_
  rw [Rule.before_eq, ((plain one (mem_sorted_iff.1 here)).reads firstRead).1,
    ((plain two (mem_sorted_iff.1 there)).reads secondRead).1]
  exact early

/-- From plain documents the rules that hold are tried as they are listed. -/
theorem matching_eq_of_plain (apart : Rule.Apart (documents.filterMap Rule.ofDocument?))
    (plain : ∀ document ∈ documents, document.Plain) :
    Rule.matching (listed (documents.filter picks)) facts = (listed documents).filter (Rule.triggeredBy facts) := by
  refine (matching_eq_iff apart).2 ⟨fun document member rule read holds => ?_, (pairwise_listed plain).filter _⟩
  rw [← ((plain document member).reads read).2]
  exact (Bool.and_eq_true_iff.1 holds).1

/-! ### The catalog of the service -/

variable {s : ServiceState}

/-- Whatever the catalog has in it, its rules and its enabled rules are listed. Of the enabled ones those that hold are
tried by priority and id, and they are rules whose documents the store picks. They are the listed rules that are enabled
and hold, in the order in which these are listed, exactly where the store picks the document of each such rule and lists
them by priority and id; and so they are where all documents are plain, whatever else is wrong with them. -/
theorem matching_listed_iff (up : s.down = false) (apart : Rule.Apart (s.store.rules.filterMap Rule.ofDocument?))
    (facts : Fields) :
    ∃ all enabled,
      (∃ journal, exec (list false) s = (.ok all, { s with journal })) ∧
      (∃ journal, exec (list true) s = (.ok enabled, { s with journal })) ∧
      Rule.Triggered ((List.filter picks s.store.rules).filterMap Rule.ofDocument?) facts
        (Rule.matching enabled facts) ∧
      (Rule.matching enabled facts = all.filter (Rule.triggeredBy facts) ↔
        (∀ document ∈ s.store.rules, ∀ rule, Rule.ofDocument? document = some rule → rule.triggeredBy facts = true →
          picks document = true) ∧
        (all.filter (Rule.triggeredBy facts)).Pairwise fun first second => first.before second = true) ∧
      ((∀ document ∈ s.store.rules, document.Plain) →
        Rule.matching enabled facts = all.filter (Rule.triggeredBy facts)) :=
  ⟨listed s.store.rules, listed (List.filter picks s.store.rules), exec_list up false, exec_list up true,
    ⟨(Rule.matching_perm _ _).trans ((perm_listed _).filter _), Rule.pairwise_matching _ _⟩,
    matching_eq_iff apart, matching_eq_of_plain apart⟩

/-- Of a catalog that the service has written the rules that hold are tried as they are listed. -/
theorem exists_listed_of_cataloged (up : s.down = false) (cataloged : s.Cataloged)
    (apart : Rule.Apart (s.store.rules.filterMap Rule.ofDocument?)) (facts : Fields) :
    ∃ all enabled,
      (∃ journal, exec (list false) s = (.ok all, { s with journal })) ∧
      (∃ journal, exec (list true) s = (.ok enabled, { s with journal })) ∧
      Rule.matching enabled facts = all.filter (Rule.triggeredBy facts) :=
  ⟨listed s.store.rules, listed (List.filter picks s.store.rules), exec_list up false, exec_list up true,
    matching_eq_of_plain apart fun document member => (cataloged document member).plain⟩

end RuleStore

namespace Trial

/-- The document of a rule, with no word on whether it is enabled. -/
def silent : Document := Fields.erase (formulaRule "RULE-a" 5 true "CFO").document "is_enabled"

/-- A catalog with this document and that of an enabled rule. -/
def silentCatalog : ServiceState where
  store := { rules := [silent, (formulaRule "RULE-b" 1 true "Hedging").document] }
  clock := 0

end Trial

namespace RuleStore

/-- The rule of the document that does not say so is listed as enabled and holds, and is not tried. -/
theorem matching_listed_iff_of_silent :
    ∃ all enabled,
      (∃ journal, exec (list false) Trial.silentCatalog = (.ok all, { Trial.silentCatalog with journal })) ∧
      (∃ journal, exec (list true) Trial.silentCatalog = (.ok enabled, { Trial.silentCatalog with journal })) ∧
      Rule.matching enabled Trial.formulaFacts = [Trial.formulaRule "RULE-b" 1 true "Hedging"] ∧
      Rule.matching enabled Trial.formulaFacts ≠ all.filter (Rule.triggeredBy Trial.formulaFacts) := by
  obtain ⟨all, enabled, every, chosen, triggered, same, -⟩ :=
    matching_listed_iff (s := Trial.silentCatalog) rfl (by decide +kernel) Trial.formulaFacts
  refine ⟨all, enabled, every, chosen, List.perm_singleton.1 (triggered.exactly.trans (.of_eq (by decide +kernel))),
    fun alike => ?_⟩
  have picked := (same.1 alike).1 Trial.silent (by simp [Trial.silentCatalog]) (Trial.formulaRule "RULE-a" 5 true "CFO")
    (by decide +kernel) (by decide +kernel)
  exact absurd picked (by decide +kernel)

end RuleStore

end Countersign
