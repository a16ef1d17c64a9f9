/-
Module: Countersign.Proofs.Catalog.Storing
Purpose: What the rules' part of the store makes of a well-kept catalog.
Main exports: RuleStore.First, RuleStore.exec_findOne_cases, RuleStore.exec_get_cases, RuleStore.exec_add_rule_cases,
  RuleStore.exec_insertAll, RuleStore.exec_remove_cases, RuleStore.First.updateFirst_cases,
  RuleStore.exec_update_cases
-/
import Countersign.Proofs.Catalog.Entries
import Countersign.Proofs.Service.Endings

namespace Countersign

open Service

/-!
Documents are looked for by a query, which may fail. Rules are added and removed as a whole. A change goes field by
field, and where the store does not keep the value of a field, the fields in front of it stay changed.
-/

variable {s : ServiceState} {rules : List Rule}

namespace RuleStore

open RuleCatalog

/-- A document that is the first to meet a query, and the rule that stands in it. -/
structure First (documents : Table) (rules : List Rule) (query : Query) (rule : Rule) (document : Document) where
  front : List Rule
  back : List Rule
  before : Table
  behind : Table
  entries : rules = front ++ rule :: back
  split : documents = before ++ document :: behind
  inFront : List.Forall₂ Rule.Stands front before
  stands : rule.Stands document
  inBack : List.Forall₂ Rule.Stands back behind
  passed : ∀ other ∈ before, query other = .ok false
  met : query document = .ok true

theorem First.member {documents : Table} {query : Query} {rule : Rule} {document : Document}
    (first : First documents rules query rule document) : rule ∈ rules := by
  rw [first.entries]
  simp

theorem First.member_of_other {documents : Table} {query : Query} {rule other : Rule} {document : Document}
    (first : First documents rules query rule document) (within : other ∈ first.front ++ first.back) :
    other ∈ rules := by
  rw [first.entries]
  exact List.mem_append.2 ((List.mem_append.1 within).imp_right (List.mem_cons_of_mem _))

/-- In a well-kept catalog no other rule has the id of a rule that was found. -/
theorem First.id_alone {documents : Table} {query : Query} {rule : Rule} {document : Document}
    (first : First documents rules query rule document) (wellKept : WellKept documents rules) :
    ∀ other ∈ first.front ++ first.back, other.id ≠ rule.id :=
  ne_of_nodup (first.entries ▸ wellKept.ids)

/-- Nor its name. -/
theorem First.name_alone {documents : Table} {query : Query} {rule : Rule} {document : Document}
    (first : First documents rules query rule document) (wellKept : WellKept documents rules) :
    ∀ other ∈ first.front ++ first.back, other.name ≠ rule.name :=
  ne_of_nodup (first.entries ▸ wellKept.names)

/-- A rule that is found by an id has that id. -/
theorem First.id_eq {documents : Table} {id : String} {rule : Rule} {document : Document}
    (first : First documents rules (withId (.text id)) rule document) : rule.id = id := by
  have met := first.met
  rw [withId, Query.decides_text] at met
  simpa [Document.meets, Fields.getD, first.stands.id] using met

/-- A rule that is found by a name has that name. -/
theorem First.name_eq {documents : Table} {name : String} {rule : Rule} {document : Document}
    (first : First documents rules (withName (.text name)) rule document) : rule.name = name := by
  have met := first.met
  rw [withName, Query.decides_text] at met
  simpa [Document.meets, Fields.getD, first.stands.name] using met

/-- The documents with another one in the place of the first that meets the query. -/
def First.replaced {documents : Table} {query : Query} {rule : Rule} {document : Document}
    (first : First documents rules query rule document) (after : Document) : Table :=
  first.before ++ after :: first.behind

/-- The first rule that meets a query may be replaced by a neat one of the same id whose name no other rule has. -/
theorem First.wellKept_replaced {documents : Table} {query : Query} {rule changed : Rule} {document after : Document}
    (first : First documents rules query rule document) (wellKept : WellKept documents rules)
    (stands : changed.Stands after) (same : changed.id = rule.id) (neat : changed.Neat)
    (alone : ∀ other ∈ first.front ++ first.back, other.name ≠ changed.name) :
    WellKept (first.replaced after) (first.front ++ changed :: first.back) :=
  (Eq.mp (congrArg₂ WellKept first.split first.entries) wellKept).replace first.inFront first.inBack stands same neat
    alone

/-- A rule is looked for: the query fails, or no document meets it, or the first that does is found. -/
theorem exec_findOne_cases (up : s.down = false) (wellKept : WellKept s.store.rules rules) (query : Query) :
    (∃ failure, exec (findOne .rules query) s = (.error failure, s)) ∨
    (s.store.rules.find? query = .ok none ∧ exec (findOne .rules query) s = (.ok none, s)) ∨
    ∃ rule document, Nonempty (First s.store.rules rules query rule document) ∧
      exec (findOne .rules query) s = (.ok (some document), s) := by
  cases looked : (s.store.table .rules).find? query with
  | error fault => exact Or.inl ⟨_, exec_findOne up looked⟩
  | ok found =>
      have ran := exec_findOne up looked
      cases found with
      | none => exact Or.inr (Or.inl ⟨looked, ran⟩)
      | some document =>
          obtain ⟨before, behind, documents, passed, met⟩ := Table.split_of_find? looked
          have related := wellKept.stands
          rw [show s.store.rules = _ from documents] at related
          obtain ⟨front, rule, back, entries, inFront, stands, inBack⟩ := split_of_documents related
          exact Or.inr (Or.inr ⟨rule, document,
            ⟨⟨front, back, before, behind, entries, documents, inFront, stands, inBack, passed, met⟩⟩, ran⟩)

theorem exec_count (up : s.down = false) : exec count s = (.ok s.store.rules.length, s) := by
  have decides : Query.Decides Query.all fun _ => true := fun _ => rfl
  rw [count, Service.count, exec_bind_ok (exec_reach_up up), Table.filter_eq decides,
    exec_bind_ok (exec_found_ok _ s), List.filter_true]
  rfl

/-- A document in which a rule stands is read as the rule, with nothing to note. -/
theorem exec_read?_stands {rule : Rule} {document : Document} (stands : rule.Stands document) (s : ServiceState) :
    exec (read? document) s = (.ok (some rule), s) := by
  rw [read?, stands.reads]
  rfl

/-- A rule is got, or nothing happens. -/
theorem exec_get_cases (up : s.down = false) (wellKept : WellKept s.store.rules rules) (id : Value) :
    (∃ failure, exec (get id) s = (.error failure, s)) ∨
    ∃ rule document, Nonempty (First s.store.rules rules (withId id) rule document) ∧
      exec (get id) s = (.ok rule, s) := by
  rw [get, find?, bind_assoc]
  rcases exec_findOne_cases up wellKept (withId id) with
    ⟨failure, failed⟩ | ⟨-, missed⟩ | ⟨rule, document, ⟨first⟩, found⟩
  · exact Or.inl ⟨failure, exec_bind_error failed _⟩
  · exact Or.inl ⟨_, exec_bind_ok missed _⟩
  · refine Or.inr ⟨rule, document, ⟨first⟩, ?_⟩
    rw [exec_bind_ok found, exec_bind_ok (exec_read?_stands first.stands s)]
    rfl

/-- Adding a sound and neat rule fails with the store as it was, or puts the rule behind all others. -/
theorem exec_add_rule_cases (up : s.down = false) (wellKept : WellKept s.store.rules rules) {rule : Rule}
    (sound : rule.Sound) (neat : rule.Neat) :
    (∃ failure, exec (add rule) s = (.error failure, s) ∧
      (failure.Told ∨ Document.admissionFault? rule.document ≠ none)) ∨
    ∃ documents journal, exec (add rule) s =
        (.ok rule, { s with store := s.store.setTable .rules documents, journal }) ∧
      WellKept documents (rules ++ [rule.kept]) := by
  rw [add]
  rcases wellKept.insert_cases sound neat with ⟨fault, unfit⟩ | ⟨-, made⟩ | ⟨grown, made⟩
  · exact Or.inl ⟨_, exec_bind_error (exec_insert_of_fault .rules up unfit) _, Or.inr (by simp [unfit])⟩
  · exact Or.inl ⟨_, exec_bind_ok (exec_insert_taken .rules up made) _, Or.inl (.refused _)⟩
  · exact Or.inr ⟨_, _, exec_bind_ok (exec_insert .rules up made) _, grown⟩

/-- Rules that share no ids and no names, and that the store takes, are all inserted. -/
theorem exec_insertAll {made : List Rule} (up : s.down = false)
    (wellKept : WellKept s.store.rules rules) (sound : ∀ rule ∈ made, rule.Sound ∧ rule.Neat)
    (admitted : ∀ rule ∈ made, Document.admissionFault? rule.document = none)
    (ids : ((rules ++ made).map (·.id)).Nodup) (names : ((rules ++ made).map (·.name)).Nodup) :
    ∃ documents, exec (insertAll made) s = (.ok (), { s with store := s.store.setTable .rules documents }) ∧
      WellKept documents (rules ++ made.map Rule.kept) := by
  induction made generalizing s rules with
  | nil => exact ⟨s.store.rules, by simp [insertAll, Store.setTable], by simpa using wellKept⟩
  | cons rule rest ih =>
      obtain ⟨⟨sound, neat⟩, others⟩ := List.forall_mem_cons.1 sound
      obtain ⟨fits, fit⟩ := List.forall_mem_cons.1 admitted
      rcases wellKept.insert_cases sound neat with ⟨fault, unfit⟩ | ⟨⟨other, member, same⟩, -⟩ | ⟨grown, made⟩
      · rw [fits] at unfit
        cases unfit
      · rcases same with same | same
        · exact absurd same (ne_of_nodup ids other (List.mem_append_left _ member))
        · exact absurd same (ne_of_nodup names other (List.mem_append_left _ member))
      · have inserted := exec_insert .rules up made
        obtain ⟨documents, ran, kept⟩ := @ih
          { s with store := s.store.setTable .rules (s.store.rules ++ [Document.kept rule.document]) }
          (rules ++ [rule.kept]) up grown others fit (by simpa [Rule.kept] using ids) (by simpa [Rule.kept] using names)
        refine ⟨documents, ?_, by simpa using kept⟩
        rw [insertAll, exec_bind_ok inserted, if_pos rfl, ran]
        rfl

/-- Removing a rule leaves the other rules, or nothing happens. -/
theorem exec_remove_cases (up : s.down = false) (wellKept : WellKept s.store.rules rules) (id : Value) :
    (∃ failure, exec (remove id) s = (.error failure, s)) ∨
    ∃ left documents journal, exec (remove id) s =
        (.ok (), { s with store := s.store.setTable .rules documents, journal }) ∧
      left.Sublist rules ∧ WellKept documents left := by
  rw [remove, Service.remove, bind_assoc, exec_bind_ok (exec_reach_up up)]
  cases made : (s.store.table .rules).removeFirst? (withId id) with
  | error fault => exact Or.inl ⟨_, rfl⟩
  | ok left =>
      cases left with
      | none => exact Or.inl ⟨_, rfl⟩
      | some table =>
          have same : table = s.store.rules.dropFirst (withId id) := by
            unfold Table.removeFirst? at made
            cases found : (s.store.table .rules).find? (withId id) with
            | error fault => rw [found] at made; cases made
            | ok first =>
                rw [found] at made
                cases first with
                | none => cases Except.ok.inj made
                | some document => exact (Option.some.inj (Except.ok.inj made)).symm
          obtain ⟨kept, fewer, still⟩ := wellKept.remove (withId id)
          exact Or.inr ⟨kept, table, _, rfl, fewer, same ▸ still⟩

/-! ### Changing a rule in the store -/

/-- Another rule has the id of the first rule that meets a query, or the name that this one has after some updates. -/
def First.Shared {documents : Table} {query : Query} {rule : Rule} {document : Document}
    (first : First documents rules query rule document) (new : Rule) (updates : Fields) : Prop :=
  ∃ other ∈ first.front ++ first.back,
    other.id = rule.id ∨ other.name = (if updates.has "name" then new.name else rule.name)

/-- Giving the first document that meets a query fields of a sound rule: all are given, or the change stops at a value
that the store does not keep, or another rule has the name. -/
theorem First.updateFirst_cases {documents : Table} {query : Query} {rule new : Rule} {document : Document}
    (first : First documents rules query rule document) (sound : new.Sound)
    {updates : Fields} (offered : ∀ field ∈ updates, field ∈ new.fields) (fixed : updates.has "rule_id" = false)
    (wanted : Fields) :
    (∃ given name v rest fault, updates = given ++ (name, v) :: rest ∧ Change.StorableAll given ∧
      v.storeFault? = some fault ∧
      documents.updateFirst Collection.rules.uniqueKeys query (Change.assignAll wanted updates) =
        .ok (.refused fault (first.replaced (Fields.putAll document (Value.storedFields given))))) ∨
    (documents.updateFirst Collection.rules.uniqueKeys query (Change.assignAll wanted updates) =
      .ok (.refused .keyTaken documents) ∧ first.Shared new updates) ∨
    (Change.StorableAll updates ∧ ∃ (changed : Rule) (after : Document),
      after = Fields.putAll document (Value.storedFields updates) ∧
      documents.updateFirst Collection.rules.uniqueKeys query (Change.assignAll wanted updates) =
        .ok (.changed document after (first.replaced after)) ∧
      changed.Stands after ∧ ∀ other ∈ first.front ++ first.back, other.name ≠ changed.name) := by
  have named {field : String × Value} (member : field ∈ updates) : field.1 ∈ Rule.fieldNames :=
    Rule.Offers.name_mem ⟨new, sound, offered field member⟩
  have plain : ∀ name ∈ Rule.fieldNames, Change.PlainName name := by decide +kernel
  -- No name of a field of rules is a path or has a place to be found, so the fields are set by their names.
  rw [Change.assignAll_eq_setAll fun field member => plain _ (named member)]
  have made : documents.updateFirst Collection.rules.uniqueKeys query (Change.setAll updates) =
      .ok (Table.changeOne Collection.rules.uniqueKeys (Change.setAll updates) first.before document first.behind) :=
    (congrArg (Table.updateFirst Collection.rules.uniqueKeys · query (Change.setAll updates)) first.split).trans
      (Table.updateFirst_split first.passed first.met _ _)
  rw [made]
  rcases Change.setAll_cases updates document with
    ⟨storable, whole⟩ | ⟨given, name, v, rest, fault, parts, storable, refused, stopped⟩
  · refine Or.inr ?_
    obtain ⟨changed, stands, same, named, -⟩ := first.stands.given sound offered storable fixed
    rcases Rule.keyed.changeOne_cases first.inFront first.inBack first.stands stands same whole with
      ⟨apart, outcome⟩ | ⟨⟨other, within, key, known, shared⟩, outcome⟩
    · refine Or.inr ⟨storable, changed, _, rfl, congrArg Except.ok outcome, stands, fun other within => ?_⟩
      exact apart other within ("name", (·.name)) (by simp)
    · refine Or.inl ⟨congrArg Except.ok (outcome.trans (congrArg _ first.split.symm)), other, within, ?_⟩
      simp only [List.mem_cons, List.not_mem_nil, or_false] at known
      rcases known with rfl | rfl
      · exact Or.inl (shared.trans same)
      · exact Or.inr (shared.trans named)
  · have member : (name, v) ∈ updates := by rw [parts]; simp
    rw [Document.fieldFault?_of_nameKept (Rule.nameKept (named member))] at refused
    refine Or.inl ⟨given, name, v, rest, fault, parts, storable, refused, ?_⟩
    simp only [Table.changeOne, stopped]
    rfl

/-- Updates with the time of the update. -/
def stamped (updates : Fields) (s : ServiceState) : Fields :=
  updates ++ [("updated_at", .moment (Moment.ofClock s.clock))]

theorem has_stamped (updates : Fields) (s : ServiceState) {name : String} (different : name ≠ "updated_at") :
    (stamped updates s).has name = updates.has name := by
  simp [stamped, Fields.has, Fields.get?_append, different.symm]

/-- They are fields of the rule with that time. -/
theorem stamped_offered {new : Rule} {updates : Fields} (offered : ∀ field ∈ updates, field ∈ new.body) :
    ∀ field ∈ stamped updates s, field ∈ { new with updatedAt := Moment.ofClock s.clock }.fields := by
  intro field member
  rcases List.mem_append.1 member with sent | last
  · exact List.mem_append_left _ (offered field sent)
  · rw [List.mem_singleton.1 last]
    exact List.mem_append_right _ (by simp)

/-- The time of an update takes the place of none of its fields. -/
theorem put_stamped {new : Rule} {updates : Fields} (offered : ∀ field ∈ updates, field ∈ new.body)
    (s : ServiceState) :
    Fields.put updates "updated_at" (.moment (Moment.ofClock s.clock)) = stamped updates s := by
  refine Fields.put_of_missing ?_ _
  rw [Fields.has, Option.isSome_eq_false_iff, Option.isNone_iff_eq_none]
  cases found : Fields.get? updates "updated_at" with
  | none => rfl
  | some v => simpa [Rule.body] using offered _ (Fields.mem_of_get? found)

/-- The time of an update is kept, so a value that is not kept is one of those that were sent. -/
theorem sent_of_stamped {updates given rest : Fields} {name : String} {v : Value}
    (parts : stamped updates s = given ++ (name, v) :: rest) (refused : v.storeFault? ≠ none) :
    ∃ rest, updates = given ++ (name, v) :: rest := by
  unfold stamped at parts
  rcases List.eq_nil_or_concat rest with rfl | ⟨others, last, rfl⟩
  · obtain ⟨-, final⟩ := List.append_inj' parts rfl
    obtain ⟨-, rfl⟩ := Prod.mk.inj (List.singleton_inj.1 final)
    exact absurd (Value.storeFault?_moment (Moment.leavesCalendar_ofClock _)) refused
  · rw [List.concat_eq_append, ← List.cons_append, ← List.append_assoc] at parts
    exact ⟨others, (List.append_inj' parts rfl).1⟩

/-- The store keeps the time of an update as well. -/
theorem storableAll_stamped {updates : Fields} (storable : Change.StorableAll updates) (s : ServiceState) :
    Change.StorableAll (stamped updates s) := by
  refine List.forall_mem_append.2 ⟨storable, List.forall_mem_singleton.2 ?_⟩
  rw [Document.fieldFault?_of_nameKept (show Document.NameKept "updated_at" from Rule.nameKept (by decide))]
  exact Value.storeFault?_moment (Moment.leavesCalendar_ofClock _)

/-- Changing a stored rule by fields of a sound one: all are given, or the store cuts the change short at a value that
it does not keep, or nothing happens because another rule has the name. -/
theorem exec_update_cases (up : s.down = false) {id : Value} {rule new : Rule} {document : Document}
    (first : First s.store.rules rules (withId id) rule document) (sound : new.Sound) {updates : Fields}
    (offered : ∀ field ∈ updates, field ∈ new.body) (fixed : updates.has "rule_id" = false) :
    (∃ refusal, exec (update id updates) s = (.error (.refused refusal), s) ∧ first.Shared new updates) ∨
    (∃ given name v rest fault, updates = given ++ (name, v) :: rest ∧ Change.StorableAll given ∧
      v.storeFault? = some fault ∧ ∃ after, after = Fields.putAll document (Value.storedFields given) ∧
      exec (update id updates) s =
        (.error (.store fault), { s with store := s.store.setTable .rules (first.replaced after) })) ∨
    (Change.StorableAll updates ∧ ∃ (changed : Rule) (after : Document) (journal : List Entry),
      after = Fields.putAll document (Value.storedFields (stamped updates s)) ∧
      exec (update id updates) s =
        (.ok changed, { s with store := s.store.setTable .rules (first.replaced after), journal }) ∧
      changed.Stands after ∧ ∀ other ∈ first.front ++ first.back, other.name ≠ changed.name) := by
  have still : (stamped updates s).has "rule_id" = false := (has_stamped updates s (by decide)).trans fixed
  have outcome := first.updateFirst_cases (sound.updated (Moment.ofClock s.clock)) (stamped_offered offered) still
    [("rule_id", id.stored)]
  rw [update, exec_bind, exec_now]
  dsimp only
  rw [put_stamped offered, exec_bind, exec_attempt]
  rcases outcome with
    ⟨given, name, v, rest, fault, parts, storable, refused, made⟩ |
      ⟨made, other, within, shared⟩ | ⟨storable, changed, after, given, made, stands, apart⟩
  · refine Or.inr (Or.inl ?_)
    obtain ⟨rest, sent⟩ := sent_of_stamped parts (by simp [refused])
    refine ⟨given, name, v, rest, fault, sent, storable, refused, _, rfl, ?_⟩
    rw [exec_update_refused .rules up made]
    cases fault with
    | keyTaken => exact absurd refused (Value.storeFault?_ne_keyTaken v)
    | _ => rfl
  · rw [has_stamped updates s (by decide)] at shared
    refine Or.inl ⟨.ruleNameTaken ((stamped updates s).getD "name") none, ?_, other, within, shared⟩
    rw [exec_update_refused .rules up made]
    exact congrArg (Prod.mk _) (by simp [Store.setTable])
  · obtain ⟨journal, noted⟩ := exec_note .info .ruleStore s!"Updated approval rule: {id.display}" (tagged id) false
      { s with store := s.store.setTable .rules (first.replaced after) }
    refine Or.inr (Or.inr ⟨fun field member => storable field (List.mem_append_left _ member), changed, after, journal,
      given, ?_, stands, apart⟩)
    rw [@exec_update_changed .rules _ _ up _ _ _ _ made]
    dsimp only
    rw [exec_bind_ok noted, exec_bind_ok (exec_read?_stands stands _)]
    rfl

end RuleStore

end Countersign
