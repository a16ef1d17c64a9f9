/-
Module: Countersign.Proofs.Catalog.Seeding
Purpose: The default rules that an empty catalog is filled with.
Main exports: RuleCatalog.admitted_of_default, RuleCatalog.exec_numbered,
  RuleCatalog.exec_addAll_numbered, RuleCatalog.exec_seed_cases
-/
import Countersign.Proofs.Catalog.Storing

namespace Countersign

open Service

/-!
The default rules share no names, and they are given ids that share none either. The store takes each of them, so an
empty catalog is filled with all of them.
-/

variable {s : ServiceState} {rules : List Rule}

namespace RuleCatalog

/-- The store takes every default rule. -/
theorem admitted_of_default {rule : DefaultRule} (member : rule ∈ defaultRules) {id : String} {time : Moment}
    (whole : Text.hasHalf id = false) (within : time.leavesCalendar = false) :
    Document.admissionFault? (rule.rule id time).document = none := by
  have storable : ∀ rule ∈ defaultRules, Text.hasHalf rule.name = false ∧ Text.hasHalf rule.description = false ∧
      fitsWord rule.priority = true ∧ Text.hasHalf rule.combinator.name = false ∧
      (Value.list (rule.conditions.map Condition.value)).storeFault? = none ∧
      (Value.ofTexts rule.approvers).storeFault? = none := by
    decide +kernel
  obtain ⟨name, description, priority, combinator, conditions, approvers⟩ := storable rule member
  have names : ∀ field ∈ (rule.rule id time).document, Value.nameFault? field.1 = none := by
    have all : ∀ name ∈ Rule.fieldNames ++ [Document.identity], Value.nameFault? name = none := by decide +kernel
    exact fun field member => all _ (List.mem_map_of_mem (f := Prod.fst) member)
  have values : ∀ field ∈ (rule.rule id time).document, field.2.storeFault? = none := by
    simp only [Rule.document, Rule.fields, Rule.body, DefaultRule.rule, List.cons_append, List.nil_append,
      List.forall_mem_cons]
    exact ⟨Value.storeFault?_text_iff.2 whole, Value.storeFault?_text_iff.2 name,
      Value.storeFault?_text_iff.2 description, if_pos priority, rfl, Value.storeFault?_text_iff.2 combinator,
      conditions, approvers, Value.storeFault?_moment within, Value.storeFault?_moment within, Value.storeFault?_text_iff.2 whole,
      by simp⟩
  have inside : Value.fieldsStoreFault? (rule.rule id time).document = none :=
    Value.storeFault?_record_iff.2 fun field member => ⟨names field member, values field member⟩
  have wordless : (Fields.names (rule.rule id time).document).any Filter.isWord = false := by
    have all : (Rule.fieldNames ++ [Document.identity]).any Filter.isWord = false := by decide +kernel
    exact all
  rw [Document.admissionFault?, if_neg (by simp [wordless]), inside]
  rfl

/-- Rules that were given ids are default rules, in order and with ids of their own. -/
structure Numbered (rules : List DefaultRule) (taken : Nat) (time : Moment) (made : List Rule) : Prop where
  each : ∀ rule ∈ made, ∃ default ∈ rules, ∃ number, rule = default.rule (idText "RULE" number) time
  names : made.map (·.name) = rules.map (·.name)
  ids : ∀ rule ∈ made, ∃ number > taken, rule.id = idText "RULE" number
  distinct : (made.map (·.id)).Nodup

theorem exec_numbered (time : Moment) (rules : List DefaultRule) (s : ServiceState) :
    ∃ made s', exec (numbered time rules) s = (.ok made, s') ∧ s'.store = s.store ∧ s'.down = s.down ∧
      s'.clock = s.clock ∧ Numbered rules (s.taken "RULE") time made := by
  induction rules generalizing s with
  | nil => exact ⟨[], s, rfl, rfl, rfl, rfl, by simp, rfl, by simp, by simp⟩
  | cons rule rest ih =>
      obtain ⟨made, s', ran, store, down, clock, each, names, ids, distinct⟩ := ih (s.afterNew "RULE")
      rw [numbered, exec_bind_ok (exec_newId "RULE" s), exec_bind_ok ran]
      have next : (s.afterNew "RULE").taken "RULE" = s.taken "RULE" + 1 := by
        rw [ServiceState.taken_afterNew, if_pos rfl]
      rw [next] at ids
      refine ⟨_, s', rfl, store, down, clock, ?_, congrArg (rule.name :: ·) names, ?_, ?_⟩
      · refine List.forall_mem_cons.2 ⟨⟨rule, by simp, _, rfl⟩, fun later member => ?_⟩
        obtain ⟨default, within, number, same⟩ := each later member
        exact ⟨default, List.mem_cons_of_mem _ within, number, same⟩
      · refine List.forall_mem_cons.2 ⟨⟨_, Nat.lt_succ_self _, rfl⟩, fun later member => ?_⟩
        obtain ⟨number, more, same⟩ := ids later member
        exact ⟨number, by omega, same⟩
      · refine List.nodup_cons.2 ⟨fun shared => ?_, distinct⟩
        obtain ⟨later, member, same⟩ := List.mem_map.1 shared
        obtain ⟨number, more, known⟩ := ids later member
        have := idText_injective "RULE" (known.symm.trans same)
        omega

/-- Default rules that were given ids all go into a store without rules. -/
theorem exec_addAll_numbered (up : s.down = false) (empty : s.store.rules = []) {taken : Nat} {time : Moment}
    {made : List Rule} (numbered : Numbered defaultRules taken time made) (inside : time.leavesCalendar = false) :
    ∃ documents journal, exec (RuleStore.addAll made) s =
        (.ok made, { s with store := s.store.setTable .rules documents, journal }) ∧
      WellKept documents (made.map Rule.kept) := by
  obtain ⟨each, names, ids, distinct⟩ := numbered
  have sound : ∀ rule ∈ made, rule.Sound ∧ rule.Neat := by
    intro rule member
    obtain ⟨default, within, number, rfl⟩ := each rule member
    exact ⟨sound_of_default within _ _, (neat_of_default within _ _).1⟩
  have admitted : ∀ rule ∈ made, Document.admissionFault? rule.document = none := by
    intro rule member
    obtain ⟨default, within, number, rfl⟩ := each rule member
    exact admitted_of_default within (hasHalf_idText (Text.unmarked_of_below rfl) _) inside
  have wellKept : WellKept s.store.rules [] := by
    rw [empty]
    exact .empty
  obtain ⟨documents, inserted, kept⟩ := RuleStore.exec_insertAll up wellKept sound admitted
    (by simpa using distinct) (by rw [List.nil_append, names]; decide)
  have filled : made.isEmpty = false := by
    cases made with
    | nil => cases names
    | cons => rfl
  rw [RuleStore.addAll, if_neg (by simp [filled]), exec_bind_ok inserted]
  exact ⟨documents, _, rfl, by simpa using kept⟩

/-- An empty catalog is filled with the default rules, and another is left as it is. -/
theorem exec_seed_cases (up : s.down = false) (wellKept : WellKept s.store.rules rules) :
    (∃ journal, exec seed s = (.ok [], { s with journal })) ∨
    ∃ made documents s', rules = [] ∧ exec seed s = (.ok made, s') ∧ s'.store = s.store.setTable .rules documents ∧
      WellKept documents (made.map Rule.kept) ∧ ∀ rule ∈ made, rule.Tested := by
  rw [seed, exec_bind_ok (RuleStore.exec_count up)]
  by_cases some : 0 < s.store.rules.length
  · rw [if_pos some]
    exact Or.inl ⟨_, rfl⟩
  rw [if_neg some]
  have empty : s.store.rules = [] := List.length_eq_zero_iff.1 (by omega)
  have nothing : rules = [] := by
    rw [empty] at wellKept
    cases wellKept.stands
    rfl
  obtain ⟨made, s', gave, store, down, clock, numbered⟩ := exec_numbered (Moment.ofClock s.clock) defaultRules s
  obtain ⟨documents, early, stored, kept⟩ := exec_addAll_numbered (down.trans up)
    ((congrArg Store.rules store).trans empty) numbered (Moment.leavesCalendar_ofClock _)
  obtain ⟨journal, noted⟩ := exec_note .info .ruleCatalog s!"Seeded {made.length} default approval rules" [] false
    { s' with store := s'.store.setTable .rules documents, journal := early }
  refine Or.inr ⟨made, documents, { s' with store := s'.store.setTable .rules documents, journal }, nothing, ?_,
    congrArg (Store.setTable · .rules documents) store, kept, fun rule member => ?_⟩
  · rw [exec_bind, exec_now]
    dsimp only
    rw [exec_bind_ok gave, exec_bind_ok stored, exec_bind_ok noted]
    rfl
  · obtain ⟨default, within, number, rfl⟩ := numbered.each rule member
    exact (neat_of_default within _ _).2

end RuleCatalog

end Countersign
