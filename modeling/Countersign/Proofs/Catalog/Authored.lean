/-
Module: Countersign.Proofs.Catalog.Authored
Purpose: What creating, changing and switching a rule make of a well-kept catalog.
Main exports: RuleCatalog.exec_create_cases, RuleCatalog.CutShort, RuleCatalog.Changing,
  RuleCatalog.exec_update_changing, RuleCatalog.exec_toggle_cases
-/
import Countersign.Proofs.Catalog.Storing

namespace Countersign

open Service

/-!
A command of the rules' authors either fails with the store as it was, or does all that it says. The one exception is a
change that the store cuts short.
-/

variable {s : ServiceState} {rules : List Rule}

/-- Only a text is the same as a text. -/
theorem Value.eq_text_of_same {s : String} {v : Value} (same : (Value.text s).same v = true) : v = .text s := by
  cases v with
  | text t =>
      have alike : s = t := by simpa [Value.same, Value.sameLeaf] using same
      rw [alike]
  | _ => simp [Value.same, Value.sameLeaf] at same

namespace RuleCatalog

/-! ### Creating a rule -/

theorem exec_build (draft : Fields) (s : ServiceState) : exec (build draft) s = (RuleDraft.build draft, s) := by
  rw [build]
  cases RuleDraft.build draft <;> rfl

/-- A name is refused, or only the rule of the given id has it. -/
theorem exec_ensureNameFree_cases (up : s.down = false) (wellKept : WellKept s.store.rules rules) (name : String)
    (ownId : Option Value) :
    (∃ failure, exec (ensureNameFree name ownId) s = (.error failure, s)) ∨
    (exec (ensureNameFree name ownId) s = (.ok (), s) ∧
      ∀ rule ∈ rules, rule.name = name → ownId = some (.text rule.id)) := by
  rw [ensureNameFree, RuleStore.findByName?, bind_assoc]
  rcases RuleStore.exec_findOne_cases up wellKept (RuleStore.withName (.text name)) with
    ⟨failure, failed⟩ | ⟨looked, missed⟩ | ⟨holder, document, ⟨first⟩, found⟩
  · exact Or.inl ⟨failure, exec_bind_error failed _⟩
  · refine Or.inr ⟨exec_bind_ok missed _, fun rule member same => ?_⟩
    rw [RuleStore.withName, Table.find?_eq (Query.decides_text "name" name)] at looked
    obtain ⟨front, back, before, document, behind, -, documents, -, stands, -⟩ := split_of_mem wellKept.stands member
    have none := List.find?_eq_none.1 (Except.ok.inj looked) document (by rw [documents]; simp)
    simp [Document.meets, Fields.getD, stands.name, same] at none
  · rw [exec_bind_ok found, exec_bind_ok (RuleStore.exec_read?_stands first.stands s)]
    by_cases own : ownId.any (Value.same (.text holder.id)) = true
    · refine Or.inr ⟨?_, fun rule member same => ?_⟩
      · simp only [own, if_true]
        rfl
      · have alike : rule = holder :=
          List.inj_on_of_nodup_map wellKept.names member first.member (same.trans first.name_eq.symm)
        obtain ⟨v, given, equal⟩ := (Option.any_eq_true _ _).1 own
        rw [given, alike, Value.eq_text_of_same equal]
    · refine Or.inl ⟨.refused (.ruleNameTaken (.text name) (some holder.id)), ?_⟩
      simp only [own]
      rfl

/-- Creating a rule fails with the store as it was, or puts a rule behind all others that has a condition if it is
enabled. -/
theorem exec_create_cases (up : s.down = false) (wellKept : WellKept s.store.rules rules) (sent : NewRule) :
    (∃ failure s', exec (create sent) s = (.error failure, s') ∧ s'.store = s.store) ∨
    ∃ rule documents s', exec (create sent) s = (.ok rule, s') ∧ s'.store = s.store.setTable .rules documents ∧
      WellKept documents (rules ++ [rule.kept]) ∧ rule.Tested := by
  rw [create, exec_bind, exec_now]
  dsimp only
  rw [exec_bind_ok (exec_newId "RULE" s), exec_bind, exec_build]
  cases made : RuleDraft.build (sent.draft (idText "RULE" (s.taken "RULE" + 1)) (Moment.ofClock s.clock)) with
  | error failure => exact Or.inl ⟨failure, s.afterNew "RULE", rfl, rfl⟩
  | ok rule =>
  have built := RuleDraft.built_of_build made
  have later : (s.afterNew "RULE").down = false := up
  have still : WellKept (s.afterNew "RULE").store.rules rules := wellKept
  dsimp only
  rcases exec_ensureNameFree_cases later still rule.name none with ⟨failure, failed⟩ | ⟨free, -⟩
  · exact Or.inl ⟨failure, _, exec_bind_error failed _, rfl⟩
  · rw [exec_bind_ok free]
    rcases RuleStore.exec_add_rule_cases later still built.sound built.neat with
      ⟨failure, failed, -⟩ | ⟨documents, journal, added, grown⟩
    · exact Or.inl ⟨failure, _, failed, rfl⟩
    · exact Or.inr ⟨rule, documents, _, added, rfl, grown, built.isTested⟩

/-! ### Changing a rule -/

/-- The fields of a changed rule that are sent to the store. -/
def sentOf (fields : Fields) (rule : Rule) : Fields := rule.body.filter fun (name, _) => fields.has name

theorem sentOf_flag (v : Value) (rule : Rule) :
    sentOf [("is_enabled", v)] rule = [("is_enabled", .bool rule.enabled)] := by
  simp [sentOf, Rule.body, Fields.has]

/-- A change of a rule that the store cuts short: the changed rule is fine as a whole, but the store does not keep the
value of the named field, one of those that were sent, and only the fields in front of it are changed. -/
inductive CutShort (id updates : Value) (current : Rule) (name : String) (fault : StoreFault) (documents : Table) :
    Table → Prop where
  | mk {before behind : Table} {document : Document} {rule : Rule} {fields given rest : Fields} {v : Value}
      (split : documents = before ++ document :: behind) (found : RuleStore.withId id document = .ok true)
      (reads : Rule.check document = .accepted current) (sent : updates = .record fields)
      (built : RuleDraft.build (current.fields.putAll fields) = .ok rule)
      (stops : sentOf fields rule = given ++ (name, v) :: rest) (storable : Change.StorableAll given)
      (refused : v.storeFault? = some fault) :
      CutShort id updates current name fault documents
        (before ++ Fields.putAll document (Value.storedFields given) :: behind)

/-- Of the fields of a rule behind the flag, and not behind the conditions, only the conditions may be refused. -/
theorem eq_conditions_of_refused {rule : Rule} {front back : Fields} {name : String} {v : Value} {fault : StoreFault}
    (split : rule.body = front ++ (name, v) :: back) (flagged : front.has "is_enabled" = true)
    (unset : front.has "conditions" = false) (refused : v.storeFault? = some fault) : name = "conditions" := by
  have taken : front = rule.body.take front.length := by rw [split, List.take_left]
  have entry : rule.body[front.length]? = some (name, v) := by simp [split]
  generalize front.length = place at taken entry
  subst taken
  match place with
  | 0 | 1 | 2 | 3 | 4 => simp [Rule.body, Fields.has] at flagged
  | 5 =>
      obtain ⟨rfl, rfl⟩ := Prod.mk.inj (Option.some.inj entry)
      have whole : Value.storeFault? (.text rule.combinator.name) = none := by
        cases rule.combinator <;> decide +kernel
      rw [whole] at refused
      cases refused
  | 6 => exact (Prod.mk.inj (Option.some.inj entry)).1.symm
  | 7 => simp [Rule.body, Fields.has] at unset
  | _ + 8 => simp [Rule.body] at entry

/-- Where the flag is changed and conditions that were sent are not, the change was cut short at the conditions. -/
theorem cut_at_conditions {fields given rest : Fields} {rule : Rule} {name : String} {v : Value} {fault : StoreFault}
    (stops : sentOf fields rule = given ++ (name, v) :: rest) (refused : v.storeFault? = some fault)
    (flagged : given.has "is_enabled" = true) (unset : given.has "conditions" = false)
    (sent : fields.has "conditions" = true) : name = "conditions" := by
  obtain ⟨early, late, whole, rfl, behind⟩ := List.filter_eq_append_iff.1 stops
  obtain ⟨skipped, last, rfl, none, -, -⟩ := List.filter_eq_cons_iff.1 behind
  rw [Fields.has_filter, Bool.and_eq_true] at flagged
  rw [Fields.has_filter, sent, Bool.true_and] at unset
  obtain ⟨-, flag⟩ := flagged
  have parts : rule.body = (early ++ skipped) ++ (name, v) :: last := by rw [whole, List.append_assoc]
  refine eq_conditions_of_refused parts ?_ ?_ refused
  · rw [Fields.has_iff] at flag ⊢
    rw [Fields.names, List.map_append]
    exact List.mem_append_left _ flag
  · rw [Bool.eq_false_iff, Ne, Fields.has_iff] at unset ⊢
    rw [Fields.names, List.map_append, List.mem_append]
    rintro (early | within)
    · exact unset early
    · obtain ⟨field, member, same⟩ := List.mem_map.1 within
      rw [← same] at sent
      exact none field member sent

/-- The flag of a rule stands in front of its conditions, so it is stored if it was sent and they are stored. -/
theorem flagged_of_conditions {fields given rest : Fields} {rule : Rule}
    (split : sentOf fields rule = given ++ rest) (set : given.has "conditions" = true)
    (sent : fields.has "is_enabled" = true) : given.has "is_enabled" = true := by
  obtain ⟨early, late, whole, rfl, -⟩ := List.filter_eq_append_iff.1 split
  rw [Fields.has_filter, Bool.and_eq_true] at set
  rw [Fields.has_filter, sent, Bool.true_and]
  have taken : early = rule.body.take early.length := by rw [whole, List.take_left]
  generalize early.length = place at taken
  subst taken
  match place with
  | 0 | 1 | 2 | 3 | 4 => simp [Rule.body, Fields.has] at set
  | _ + 5 => simp [Rule.body, Fields.has]

/-- What an author sent that is no record has nothing to update. -/
theorem eq_record_of_namesAndUpdates {v : Value} {names : List String} {fields : Fields}
    (named : namesAndUpdates v = .ok (names, fields)) : v = .record fields ∧ names = fields.names ∨ fields = [] := by
  unfold namesAndUpdates at named
  split at named
  · obtain ⟨rfl, rfl⟩ := Prod.mk.inj (Except.ok.inj named)
    exact Or.inl ⟨rfl, rfl⟩
  · obtain ⟨members, -, named⟩ := RuleDraft.exists_of_bind_eq_ok named
    obtain ⟨texts, -, named⟩ := RuleDraft.exists_of_bind_eq_ok named
    exact Or.inr (Prod.mk.inj (Except.ok.inj named)).2.symm

/-- What follows in a change of a rule once what was sent has been taken apart: the changed rule is built, its name must
be free if it is another, and the fields that were sent are stored. -/
def put (id : Value) (current : Rule) (fields : Fields) : Service Rule := do
  let rule ← build (current.fields.putAll fields)
  if rule.name ≠ current.name then ensureNameFree rule.name (some id)
  RuleStore.update id (sentOf fields rule)

/-- Where only fields are sent that may be changed, no other is among them. -/
theorem unsent_of_fixed {fields : Fields}
    (fine : ¬ (!(fields.names.filter fun name => !changeable.contains name).isEmpty) = true) {name : String}
    (fixed : name ∉ changeable) : fields.has name = false := by
  have known : ∀ name ∈ fields.names, name ∈ changeable := by simpa using fine
  rw [Bool.eq_false_iff, Ne, Fields.has_iff]
  exact fun sent => fixed (known name sent)

/-- A change of a rule fails before the rule is built, or all fields that were sent may be changed. -/
theorem exec_update_eq {id : Value} {current : Rule} {s s' : ServiceState}
    (got : exec (RuleStore.get id) s = (.ok current, s')) (updates : Value) :
    (∃ failure, exec (update id updates) s = (.error failure, s')) ∨
    ∃ fields : Fields, (updates = .record fields ∨ fields = []) ∧ fields.has "rule_id" = false ∧
      exec (update id updates) s = exec (put id current fields) s' := by
  rw [update, exec_bind_ok got]
  cases named : namesAndUpdates updates with
  | error failure => exact Or.inl ⟨failure, rfl⟩
  | ok sent =>
  obtain ⟨names, fields⟩ := sent
  dsimp only
  by_cases stray : (!(names.filter fun name => !changeable.contains name).isEmpty) = true
  · rw [if_pos stray]
    exact Or.inl ⟨_, rfl⟩
  rw [if_neg stray]
  by_cases useless : (fields.isEmpty && !names.isEmpty) = true
  · rw [if_pos useless]
    exact Or.inl ⟨_, rfl⟩
  rw [if_neg useless]
  refine Or.inr ⟨fields, ?_, ?_, rfl⟩
  · exact (eq_record_of_namesAndUpdates named).imp_left And.left
  · rcases eq_record_of_namesAndUpdates named with ⟨-, rfl⟩ | rfl
    · exact unsent_of_fixed stray (by decide)
    · rfl

theorem has_sentOf (fields : Fields) (rule : Rule) {name : String} (known : rule.body.has name = true) :
    (sentOf fields rule).has name = fields.has name := by
  rw [sentOf, Fields.has_filter, known, Bool.and_true]

/-- A rule that has its name and its roles from two neat rules is neat. -/
theorem neat_of_either {rule current changed : Rule} (neat : rule.Neat) (before : current.Neat)
    {renamed reassigned : Prop} [Decidable renamed] [Decidable reassigned]
    (name : changed.name = if renamed then rule.name else current.name)
    (approvers : changed.approvers = if reassigned then rule.approvers else current.approvers) : changed.Neat := by
  have named : Rule.IsName changed.name ∧ Text.length changed.name ≤ Rule.maxName := by
    rw [name]
    split
    · exact ⟨neat.name, neat.short⟩
    · exact ⟨before.name, before.short⟩
  have assigned : changed.approvers ≠ [] ∧ (∀ role ∈ changed.approvers, Rule.IsName role) ∧
      changed.approvers.Nodup := by
    rw [approvers]
    split
    · exact ⟨neat.demanding, neat.roles, neat.distinct⟩
    · exact ⟨before.demanding, before.roles, before.distinct⟩
  exact ⟨named.1, named.2, assigned.1, assigned.2.1, assigned.2.2⟩

/-- Nor is its name that of a third rule. -/
theorem apart_of_either {rule current changed : Rule} {others : List Rule}
    (free : ∀ other ∈ others, other.name ≠ rule.name) (own : ∀ other ∈ others, other.name ≠ current.name)
    {renamed : Prop} [Decidable renamed] (name : changed.name = if renamed then rule.name else current.name) :
    ∀ other ∈ others, other.name ≠ changed.name := by
  intro other within
  rw [name]
  split
  · exact free other within
  · exact own other within

/-- A change that stopped at a field was sent as a record. -/
theorem eq_record_of_stops {updates : Value} {fields given rest : Fields} {rule : Rule} {name : String} {v : Value}
    (sent : updates = .record fields ∨ fields = []) (stops : sentOf fields rule = given ++ (name, v) :: rest) :
    updates = .record fields := by
  refine sent.resolve_right ?_
  rintro rfl
  have nothing : sentOf [] rule = [] := by simp [sentOf, Fields.has]
  rw [nothing] at stops
  simp at stops

/-- The fields in front of where a change stopped lack what all that were sent lack. -/
theorem unsent_in_front {fields given rest : Fields} {rule : Rule} {name : String}
    (parts : sentOf fields rule = given ++ rest) (unsent : (sentOf fields rule).has name = false) :
    given.has name = false := by
  rw [parts] at unsent
  rw [Bool.eq_false_iff, Ne, Fields.has_iff] at unsent ⊢
  exact fun member => unsent (List.map_subset Prod.fst (List.subset_append_left given rest) member)

section Tested

variable {current rule changed : Rule} {fields : Fields}

/-- Where a change is cut short, the changed rule is tested if it was so before, unless the change stopped at the
conditions. -/
theorem tested_of_cut {given rest : Fields} {name : String} {v : Value} {fault : StoreFault}
    (built : RuleDraft.Built (current.fields.putAll fields) rule)
    (again : ∀ condition ∈ current.conditions, Condition.check condition.value = .accepted condition)
    (stops : sentOf fields rule = given ++ (name, v) :: rest) (refused : v.storeFault? = some fault)
    (enabled : changed.enabled = if given.has "is_enabled" then rule.enabled else current.enabled)
    (conditions : changed.conditions = if given.has "conditions" then rule.conditions else current.conditions)
    (tested : current.Tested) : changed.Tested ∨ name = "conditions" := by
  rw [Rule.Tested, enabled, conditions]
  -- The rule before and the rule that was built are both tested, so only a flag of the one beside conditions of the
  -- other may do harm.
  cases flagged : given.has "is_enabled" with
  | true =>
      cases set : given.has "conditions" with
      | true => exact Or.inl built.isTested
      | false =>
          cases asked : fields.has "conditions" with
          | true => exact Or.inr (cut_at_conditions stops refused flagged set asked)
          | false => exact Or.inl (built.conditions_eq asked again ▸ built.isTested)
  | false =>
      cases set : given.has "conditions" with
      | false => exact Or.inl tested
      | true =>
          cases asked : fields.has "is_enabled" with
          | true => exact absurd (flagged_of_conditions stops set asked) (by simp [flagged])
          | false => exact Or.inl (built.enabled_eq asked ▸ built.isTested)

/-- Where a change is made as a whole, the flag and the conditions are those that were built, whether they were sent or
not. -/
theorem tested_of_whole (built : RuleDraft.Built (current.fields.putAll fields) rule)
    (again : ∀ condition ∈ current.conditions, Condition.check condition.value = .accepted condition)
    (enabled : changed.enabled = if fields.has "is_enabled" then rule.enabled else current.enabled)
    (conditions : changed.conditions = if fields.has "conditions" then rule.conditions else current.conditions) :
    changed.Tested := by
  have flag : changed.enabled = rule.enabled := by
    rw [enabled]
    cases unsent : fields.has "is_enabled" with
    | true => rfl
    | false => exact (built.enabled_eq unsent).symm
  have tests : changed.conditions = rule.conditions := by
    rw [conditions]
    cases unsent : fields.has "conditions" with
    | true => rfl
    | false => exact (built.conditions_eq unsent again).symm
  rw [Rule.Tested, flag, tests]
  exact built.isTested

end Tested

/-- What changing a rule comes to: it fails with the store as it was, or the rule is changed and then has a condition if
it is enabled, or the store cuts the change short. Then an enabled rule may lose its conditions only where the change
stopped at them. -/
inductive Changing (rules : List Rule) (id updates : Value) (s : ServiceState) :
    Except Failure Rule × ServiceState → Prop where
  | failed (failure : Failure) : Changing rules id updates s (.error failure, s)
  | cut {front back : List Rule} {current changed : Rule} {name : String} {fault : StoreFault} {documents : Table}
      (entries : rules = front ++ current :: back)
      (short : CutShort id updates current name fault s.store.rules documents)
      (kept : WellKept documents (front ++ changed :: back)) (same : changed.id = current.id)
      (tested : current.Tested → changed.Tested ∨ name = "conditions") :
      Changing rules id updates s (.error (.store fault), { s with store := s.store.setTable .rules documents })
  | changed {front back : List Rule} {rule changed : Rule} {documents : Table} {journal : List Entry}
      (entries : rules = front ++ rule :: back) (kept : WellKept documents (front ++ changed :: back))
      (tested : changed.Tested) :
      Changing rules id updates s (.ok changed, { s with store := s.store.setTable .rules documents, journal })

/-- The fields of a rule that was built may be stored where its name is not that of another rule. -/
theorem changing_of_built (up : s.down = false) (wellKept : WellKept s.store.rules rules) {id : Value}
    {current rule : Rule} {document : Document} {fields : Fields}
    (first : RuleStore.First s.store.rules rules (RuleStore.withId id) current document)
    (fixed : fields.has "rule_id" = false) (made : RuleDraft.build (current.fields.putAll fields) = .ok rule)
    (free : ∀ other ∈ first.front ++ first.back, other.name ≠ rule.name) {updates : Value}
    (sent : updates = .record fields ∨ fields = []) :
    Changing rules id updates s (exec (RuleStore.update id (sentOf fields rule)) s) := by
  have built := RuleDraft.built_of_build made
  have before : current.Neat := wellKept.neat current first.member
  have again := Rule.conditions_of_check first.stands.reads
  have own := first.name_alone wellKept
  have offered : ∀ field ∈ sentOf fields rule, field ∈ rule.body := fun field member => (List.mem_filter.1 member).1
  have unfixed : (sentOf fields rule).has "rule_id" = false := (has_sentOf fields rule rfl).trans fixed
  rcases RuleStore.exec_update_cases up first built.sound offered unfixed with
    ⟨refusal, failed, -⟩ | ⟨given, name, v, rest, fault, parts, storable, refused, after, rfl, stopped⟩ |
      ⟨storable, changed, after, journal, rfl, ran, stands, apart⟩
  · rw [failed]
    exact .failed _
  · have front : ∀ field ∈ given, field ∈ rule.fields := fun field member =>
      List.mem_append_left _ (offered field (by rw [parts]; exact List.mem_append_left _ member))
    obtain ⟨changed, stands, same, name', approvers, enabled, conditions⟩ :=
      first.stands.given built.sound front storable (unsent_in_front parts unfixed)
    rw [stopped]
    exact .cut first.entries
      (.mk first.split first.met first.stands.reads (eq_record_of_stops sent parts) made parts storable refused)
      (first.wellKept_replaced wellKept stands same (neat_of_either built.neat before name' approvers)
        (apart_of_either free own name'))
      same (tested_of_cut built again parts refused enabled conditions)
  · have whole := RuleStore.storableAll_stamped storable s
    have unstamped : (RuleStore.stamped (sentOf fields rule) s).has "rule_id" = false :=
      (RuleStore.has_stamped _ s (by decide)).trans unfixed
    obtain ⟨other, stands', same, name', approvers, enabled, conditions⟩ := first.stands.given
      (built.sound.updated (Moment.ofClock s.clock)) (RuleStore.stamped_offered offered) whole unstamped
    obtain rfl : changed = other := Checked.accepted.inj (stands.reads.symm.trans stands'.reads)
    have has {name : String} (known : rule.body.has name = true) (other : name ≠ "updated_at") :
        (RuleStore.stamped (sentOf fields rule) s).has name = fields.has name :=
      (RuleStore.has_stamped _ s other).trans (has_sentOf fields rule known)
    rw [has rfl (by decide)] at enabled conditions
    rw [ran]
    exact .changed first.entries
      (first.wellKept_replaced wellKept stands same
        (neat_of_either (built.neat.updated (Moment.ofClock s.clock)) before name' approvers) apart)
      (tested_of_whole built again enabled conditions)

/-- Changing a rule comes to one of these. -/
theorem exec_update_changing (up : s.down = false) (wellKept : WellKept s.store.rules rules) (id updates : Value) :
    Changing rules id updates s (exec (update id updates) s) := by
  rcases RuleStore.exec_get_cases up wellKept id with ⟨failure, missed⟩ | ⟨current, document, ⟨first⟩, got⟩
  · rw [update, exec_bind_error missed]
    exact .failed failure
  rcases exec_update_eq got updates with ⟨failure, failed⟩ | ⟨fields, sent, fixed, put⟩
  · rw [failed]
    exact .failed failure
  rw [put, RuleCatalog.put, exec_bind, exec_build]
  cases made : RuleDraft.build (current.fields.putAll fields) with
  | error failure => exact .failed failure
  | ok rule =>
  dsimp only
  by_cases renamed : rule.name ≠ current.name
  · rw [if_pos renamed]
    rcases exec_ensureNameFree_cases up wellKept rule.name (some id) with ⟨failure, failed⟩ | ⟨free, others⟩
    · rw [exec_bind_error failed]
      exact .failed failure
    · rw [exec_bind_ok free]
      refine changing_of_built up wellKept first fixed made (fun other within same => ?_) sent
      -- Only the rule of the id itself could have the name, but no other rule has that id.
      obtain rfl := Option.some.inj (others other (first.member_of_other within) same)
      exact first.id_alone wellKept other within first.id_eq.symm
  · rw [if_neg renamed]
    have same : rule.name = current.name := not_not.1 renamed
    exact changing_of_built up wellKept first fixed made (same ▸ first.name_alone wellKept) sent

/-- A flag is kept by the store, so switching a rule on or off is never cut short. -/
theorem exec_toggle_cases (up : s.down = false) (wellKept : WellKept s.store.rules rules) (id : Value) :
    (∃ failure, exec (toggle id) s = (.error failure, s)) ∨
    ∃ front rule back changed documents journal, rules = front ++ rule :: back ∧
      exec (toggle id) s = (.ok changed, { s with store := s.store.setTable .rules documents, journal }) ∧
      WellKept documents (front ++ changed :: back) ∧ changed.Tested := by
  rw [toggle]
  rcases RuleStore.exec_get_cases up wellKept id with ⟨failure, missed⟩ | ⟨current, document, -, got⟩
  · exact Or.inl ⟨failure, exec_bind_error missed _⟩
  rw [exec_bind_ok got]
  have changing := exec_update_changing up wellKept id (.record [("is_enabled", .bool !current.enabled)])
  generalize exec (update id (.record [("is_enabled", .bool !current.enabled)])) s = ended at changing
  cases changing with
  | failed failure => exact Or.inl ⟨failure, rfl⟩
  | changed entries kept tested => exact Or.inr ⟨_, _, _, _, _, _, entries, rfl, kept, tested⟩
  | @cut _ _ _ _ name _ _ _ short =>
      obtain @⟨_, _, _, rule, _, _, _, v, -, -, -, sent, -, stops, -, refused⟩ := short
      obtain rfl := Value.record.inj sent
      have member : (name, v) ∈ sentOf [("is_enabled", .bool !current.enabled)] rule := by
        rw [stops]
        simp
      rw [sentOf_flag, List.mem_singleton] at member
      rw [(Prod.mk.inj member).2] at refused
      cases refused

end RuleCatalog

end Countersign
