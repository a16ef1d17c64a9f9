/-
Module: Countersign.Proofs.Catalog.Overwriting
Purpose: A change of a rule writes what was sent and nothing else, and made again it writes nothing but its time.
Main exports: RuleStore.exists_first, RuleStore.First.exec_get, RuleCatalog.exec_update_record,
  RuleCatalog.Written, RuleCatalog.written_of_update, RuleCatalog.Renews, RuleCatalog.Written.renews,
  RuleCatalog.Own, RuleCatalog.renews_own, RuleCatalog.exec_update_untested
-/
import Countersign.Proofs.Catalog.Authored

namespace Countersign

open Service

/-!
A change builds the whole rule anew from its fields and what was sent, and then writes only the fields that were sent.
What was not sent is built as it was, since the name and the roles of a stored rule are neat. So the same change builds
the same rule from the changed one, and what it writes is there already.
-/

variable {s s' t : ServiceState} {rules : List Rule} {rule : Rule} {document : Document}

namespace RuleStore

/-! ### The rule of an id -/

/-- The document of a rule is asked for by the rule's id alone. -/
theorem withId_stands (stands : rule.Stands document) (id : String) :
    withId (.text id) document = .ok (rule.id == id) := by
  refine (Query.decides_text "rule_id" id document).trans (congrArg Except.ok ?_)
  simp [Document.meets, Fields.getD, stands.id]

/-- A rule of a well-kept catalog is the first of its id. -/
theorem exists_first {documents : Table} (wellKept : RuleCatalog.WellKept documents rules) (member : rule ∈ rules) :
    ∃ document, Nonempty (First documents rules (withId (.text rule.id)) rule document) := by
  obtain ⟨front, back, before, document, behind, rfl, rfl, inFront, stands, inBack⟩ :=
    split_of_mem wellKept.stands member
  refine ⟨document, ⟨front, back, before, behind, rfl, rfl, inFront, stands, inBack, fun other within => ?_, ?_⟩⟩
  · obtain ⟨one, early, here⟩ := exists_of_mem_documents inFront within
    have apart := ne_of_nodup wellKept.ids one (List.mem_append_left _ early)
    rw [withId_stands here, beq_false_of_ne apart]
  · rw [withId_stands stands, beq_self_eq_true]

/-- The first rule of an id is got. -/
theorem First.exec_get {id : String} (up : s.down = false)
    (first : First s.store.rules rules (withId (.text id)) rule document) :
    exec (get (.text id)) s = (.ok rule, s) := by
  have decides := Query.decides_text "rule_id" id
  have none : ∀ other ∈ first.before, ¬ Document.meets other "rule_id" (.text id) = true := by
    intro other within
    have passed := first.passed other within
    rw [withId, decides] at passed
    simp [Except.ok.inj passed]
  have met : Document.meets document "rule_id" (.text id) = true :=
    Except.ok.inj ((decides document).symm.trans first.met)
  have looked : (s.store.table .rules).find? (withId (.text id)) = .ok (some document) := by
    refine (Table.find?_eq decides _).trans (congrArg Except.ok ?_)
    rw [show s.store.table .rules = _ from first.split, List.find?_append, List.find?_eq_none.2 none, Option.none_or,
      List.find?_cons, met]
  rw [get, find?, bind_assoc, exec_bind_ok (exec_findOne up looked), exec_bind_ok (exec_read?_stands first.stands s)]
  rfl

/-- The first rule of an id, and its document, may be replaced by one of the same id, which is then the first. -/
def First.replace {documents table : Table} (first : First documents rules (withId (.text rule.id)) rule document)
    {changed : Rule} {after : Document} (stands : changed.Stands after) (same : changed.id = rule.id)
    (there : table = first.replaced after) :
    First table (first.front ++ changed :: first.back) (withId (.text changed.id)) changed after where
  front := first.front
  back := first.back
  before := first.before
  behind := first.behind
  entries := rfl
  split := there
  inFront := first.inFront
  stands := stands
  inBack := first.inBack
  passed := by
    rw [same]
    exact first.passed
  met := by rw [withId_stands stands, beq_self_eq_true]

/-- The time of an update is put behind what was sent. -/
theorem putAll_stamped (document : Document) (sent : Fields) (s : ServiceState) :
    Fields.putAll document (Value.storedFields (stamped sent s)) =
      Fields.put (Fields.putAll document (Value.storedFields sent)) "updated_at"
        (.moment (Moment.ofClock s.clock).stored) := by
  induction sent generalizing document with
  | nil => rfl
  | cons field rest ih => exact ih (Fields.put document field.1 field.2.stored)

end RuleStore

namespace RuleCatalog

/-! ### A change that succeeds -/

/-- A change by a record is made where all names in it are those of fields that may be changed. -/
theorem exec_update_record {id : Value} (got : exec (RuleStore.get id) s = (.ok rule, s')) (updates : Fields) :
    exec (update id (.record updates)) s =
      if (updates.names.filter fun name => !changeable.contains name).isEmpty then exec (put id rule updates) s'
      else (.error (.refused (.ruleFieldsFixed (sorted (updates.names.filter fun name => !changeable.contains name)))),
        s') := by
  rw [update, exec_bind_ok got]
  dsimp only [namesAndUpdates]
  cases known : (updates.names.filter fun name => !changeable.contains name).isEmpty with
  | false => rfl
  | true =>
      have useful : ¬ (updates.isEmpty && !updates.names.isEmpty) = true := by simp [Fields.names]
      simp only [Bool.not_true, Bool.false_eq_true, if_false, if_true, if_neg useful]
      rfl

/-- What a change that succeeded has done: only fields were sent that may be changed, the whole rule was built, the
store keeps what was sent, and the document of the rule has it now. -/
structure Written (rule : Rule) (document : Document) (updates : Fields) (s : ServiceState) (new changed : Rule)
    (after : Document) : Prop where
  known : (updates.names.filter fun name => !changeable.contains name).isEmpty = true
  built : RuleDraft.build (rule.fields.putAll updates) = .ok new
  storable : Change.StorableAll (sentOf updates new)
  document : after = Fields.putAll document (Value.storedFields (RuleStore.stamped (sentOf updates new) s))
  stands : changed.Stands after

variable {id : String} {updates : Fields} {new changed : Rule} {after : Document}

theorem mem_body_of_sentOf {field : String × Value} (sent : field ∈ sentOf updates rule) : field ∈ rule.body :=
  (List.mem_filter.1 sent).1

/-- A change that succeeds has put the changed rule in the place of the first of the id. -/
theorem written_of_update (up : s.down = false) (wellKept : WellKept s.store.rules rules)
    (first : RuleStore.First s.store.rules rules (RuleStore.withId (.text id)) rule document)
    (ran : exec (update (.text id) (.record updates)) s = (.ok changed, s')) :
    ∃ new after, Written rule document updates s new changed after ∧
      s'.store = s.store.setTable .rules (first.replaced after) ∧ s'.down = false ∧
      WellKept (first.replaced after) (first.front ++ changed :: first.back) := by
  have changing := exec_update_changing up wellKept (.text id) (.record updates)
  rw [ran] at changing
  rw [exec_update_record (first.exec_get up)] at ran
  by_cases stray : (updates.names.filter fun name => !changeable.contains name).isEmpty = true
  case neg =>
    rw [if_neg stray] at ran
    cases ran
  rw [if_pos stray, put] at ran
  obtain ⟨new, between, built, ran⟩ := exists_of_exec_bind ran
  rw [exec_build] at built
  obtain ⟨made, rfl⟩ := Prod.mk.inj built
  -- Whether the name was looked up or not, the change was then stored from the same state.
  have stored : exec (RuleStore.update (.text id) (sentOf updates new)) s = (.ok changed, s') := by
    by_cases renamed : new.name ≠ rule.name
    · rw [if_pos renamed] at ran
      obtain ⟨_, between, free, ran⟩ := exists_of_exec_bind ran
      rcases exec_ensureNameFree_cases up wellKept new.name (some (.text id)) with ⟨failure, failed⟩ | ⟨asked, -⟩
      · cases failed.symm.trans free
      · obtain ⟨-, rfl⟩ := Prod.mk.inj (asked.symm.trans free)
        exact ran
    · rwa [if_neg renamed] at ran
  have fixed : (sentOf updates new).has "rule_id" = false :=
    (has_sentOf updates new rfl).trans (unsent_of_fixed (by simpa using stray) (by decide))
  rcases RuleStore.exec_update_cases up first (RuleDraft.built_of_build made).sound (fun _ => mem_body_of_sentOf)
      fixed with
    ⟨refusal, failed, -⟩ | ⟨given, name, v, rest, fault, -, -, -, after, -, failed⟩ |
      ⟨storable, other, after, journal, given, ended, stands, -⟩
  · cases failed.symm.trans stored
  · cases failed.symm.trans stored
  · obtain ⟨same, rfl⟩ := Prod.mk.inj (ended.symm.trans stored)
    obtain rfl := Except.ok.inj same
    refine ⟨new, after, ⟨stray, made, storable, given, stands⟩, rfl, up, ?_⟩
    cases changing with
    | changed entries kept tested =>
        exact kept.eq_of_stands (related_replace first.inFront stands first.inBack) ▸ kept

/-! ### A change that is made again -/

/-- A change of a rule by a record succeeds, and nothing is another afterwards, in the rule and in its document, but the
time of the last change. -/
def Renews (before : Table) (document : Document) (behind : Table) (rule : Rule) (updates : Fields)
    (s : ServiceState) : Prop :=
  ∃ s', exec (update (.text rule.id) (.record updates)) s =
      (.ok { rule with updatedAt := (Moment.ofClock s.clock).stored }, s') ∧
    s'.store = s.store.setTable .rules
      (before ++ Fields.put document "updated_at" (.moment (Moment.ofClock s.clock).stored) :: behind)

/-- A change renews a rule where the whole is built and everything that is sent is in the document already. -/
theorem renews_of_built (up : s.down = false) (wellKept : WellKept s.store.rules rules)
    (first : RuleStore.First s.store.rules rules (RuleStore.withId (.text rule.id)) rule document)
    (known : (updates.names.filter fun name => !changeable.contains name).isEmpty = true)
    (made : RuleDraft.build (rule.fields.putAll updates) = .ok new)
    (storable : Change.StorableAll (sentOf updates new))
    (already : ∀ field ∈ sentOf updates new, Fields.get? document field.1 = some field.2.stored) :
    Renews first.before document first.behind rule updates s := by
  have built := RuleDraft.built_of_build made
  -- Whether it was sent or not, the name is built as it is.
  have same : new.name = rule.name := by
    cases sent : updates.has "name" with
    | false => exact built.name_eq sent (wellKept.neat rule first.member)
    | true =>
        have field : ("name", Value.text new.name) ∈ sentOf updates new :=
          List.mem_filter.2 ⟨by simp [Rule.body], by simpa using sent⟩
        exact Value.text.inj (Option.some.inj ((already _ field).symm.trans first.stands.name))
  have fixed : (sentOf updates new).has "rule_id" = false :=
    (has_sentOf updates new rfl).trans (unsent_of_fixed (by simpa using known) (by decide))
  rw [Renews, exec_update_record (first.exec_get up), if_pos known, put, exec_bind, exec_build, made]
  dsimp only
  rw [if_neg (not_not.2 same)]
  rcases RuleStore.exec_update_cases up first built.sound (fun _ => mem_body_of_sentOf) fixed with
    ⟨-, -, other, within, shared⟩ | ⟨given, name, v, rest, fault, parts, -, refused, -⟩ |
      ⟨-, changed, after, journal, given, ended, stands, -⟩
  · rcases shared with shared | shared
    · exact absurd shared (first.id_alone wellKept other within)
    · rw [same, ite_self] at shared
      exact absurd shared (first.name_alone wellKept other within)
  · have sent : (name, v) ∈ sentOf updates new := by
      rw [parts]
      simp
    have fine := storable _ sent
    rw [Rule.fieldFault?_of_mem_body (mem_body_of_sentOf sent), refused] at fine
    cases fine
  · have unchanged : Fields.putAll document (Value.storedFields (sentOf updates new)) = document :=
      Fields.putAll_storedFields already
    rw [RuleStore.putAll_stamped, unchanged] at given
    subst given
    have read := Rule.check_updated (Moment.ofClock s.clock).stored
      (fun different => Fields.get?_put_of_ne document _ (Ne.symm different))
      (Fields.get?_put_self document "updated_at" _) first.stands.reads
    obtain rfl := Checked.accepted.inj (stands.reads.symm.trans read)
    exact ⟨_, ended, rfl⟩

namespace Written

variable (written : Written rule document updates s new changed after)

include written

/-- What was not sent is as it was, in the document and in the rule, but for the time. -/
theorem unsent (stands : rule.Stands document) {name : String} (missing : updates.has name = false)
    (different : name ≠ "updated_at") :
    Fields.get? after name = Fields.get? document name ∧
      Fields.get? changed.fields name = Fields.get? rule.fields name := by
  have apart : (RuleStore.stamped (sentOf updates new) s).has name = false := by
    rw [RuleStore.has_stamped _ s different, sentOf, Fields.has_filter, missing, Bool.false_and]
  have same : Fields.get? after name = Fields.get? document name := by
    rw [written.document, Change.get?_putAll_storedFields fun field sent =>
      Rule.get?_of_mem_fields (RuleStore.stamped_offered (fun _ => mem_body_of_sentOf) field sent)]
    simp [apart]
  exact ⟨same, Rule.get?_fields_of_check stands.reads written.stands.reads same⟩

theorem unsent_of_fixed {name : String} (fixed : name ∉ changeable) : updates.has name = false :=
  RuleCatalog.unsent_of_fixed (by simpa using written.known) fixed

theorem sameId (stands : rule.Stands document) : changed.id = rule.id :=
  Value.text.inj (Option.some.inj
    (written.unsent stands (written.unsent_of_fixed (by decide)) (by decide : "rule_id" ≠ "updated_at")).2)

/-- What was sent is in the document. -/
theorem already {field : String × Value} (sent : field ∈ sentOf updates new) :
    Fields.get? after field.1 = some field.2.stored := by
  have offered : ∀ field ∈ RuleStore.stamped (sentOf updates new) s,
      Fields.get? { new with updatedAt := Moment.ofClock s.clock }.fields field.1 = some field.2 := fun field sent =>
    Rule.get?_of_mem_fields (RuleStore.stamped_offered (fun _ => mem_body_of_sentOf) field sent)
  have within : field ∈ RuleStore.stamped (sentOf updates new) s := List.mem_append_left _ sent
  have there : (RuleStore.stamped (sentOf updates new) s).has field.1 = true :=
    Fields.has_iff.2 (List.mem_map_of_mem within)
  rw [written.document, Change.get?_putAll_storedFields offered, if_pos there, offered field within]
  rfl

/-- The same change, made again, builds the same rule from the changed one, so it renews it. -/
theorem renews (stands : rule.Stands document)
    (first : RuleStore.First s.store.rules rules (RuleStore.withId (.text rule.id)) rule document)
    (wellKept : WellKept (first.replaced after) (first.front ++ changed :: first.back)) (up : t.down = false)
    (store : t.store.rules = first.replaced after) : Renews first.before after first.behind changed updates t := by
  have built := RuleDraft.built_of_build written.built
  have again : RuleDraft.Built (changed.fields.putAll updates) { new with updatedAt := changed.updatedAt } := by
    refine built.updated (fun different => Fields.get?_putAll_congr fun missing => ?_) ?_
    · exact (written.unsent stands missing different).2
    · exact Fields.get?_putAll_of_missing _ (written.unsent_of_fixed (by decide))
  exact renews_of_built up (store ▸ wellKept) (first.replace written.stands (written.sameId stands) store)
    written.known (RuleDraft.build_of_built again) written.storable fun _ => written.already

end Written

/-! ### A rule's own values -/

/-- Fields of a rule that may be changed. -/
def Own (rule : Rule) (own : Fields) : Prop := ∀ field ∈ own, field ∈ rule.fields ∧ field.1 ∈ changeable

/-- All of them. -/
def ownValues (rule : Rule) : Fields := rule.fields.filter fun field => changeable.contains field.1

theorem own_values (rule : Rule) : Own rule (ownValues rule) := fun field member => by
  simpa using List.mem_filter.1 member

namespace Own

variable {own : Fields} (mine : Own rule own)

include mine

theorem known : (own.names.filter fun name => !changeable.contains name).isEmpty = true := by
  simpa [Fields.names] using fun name v member => (mine (name, v) member).2

/-- Putting them over the fields of the rule changes nothing. -/
theorem putAll : rule.fields.putAll own = rule.fields :=
  Fields.putAll_of_get? fun field member => Rule.get?_of_mem_fields (mine field member).1

end Own

/-- A rule that has a condition if it is enabled is touched by its own values. -/
theorem renews_own (up : s.down = false) (wellKept : WellKept s.store.rules rules)
    (first : RuleStore.First s.store.rules rules (RuleStore.withId (.text rule.id)) rule document) (neat : rule.Neat)
    {own : Fields} (mine : Own rule own) (tested : rule.Tested) :
    Renews first.before document first.behind rule own s := by
  have built : RuleDraft.build (rule.fields.putAll own) = .ok rule := by
    rw [mine.putAll, RuleDraft.build_fields (first.stands.sound neat) neat, if_neg]
    simpa [Rule.Tested] using tested
  refine renews_of_built up wellKept first mine.known built (fun field sent => ?_) fun field sent => ?_
  · rw [Rule.fieldFault?_of_mem_body (mem_body_of_sentOf sent)]
    exact first.stands.storable (mem_body_of_sentOf sent)
  · have member := mem_body_of_sentOf sent
    have within : field ∈ rule.fields := List.mem_append_left _ member
    rw [first.stands.fills _ (List.mem_map_of_mem within), Rule.get?_of_mem_fields within,
      Rule.stored_of_mem_body member]

/-- A rule that is enabled and has no condition is refused its own values. -/
theorem exec_update_untested (up : s.down = false)
    (first : RuleStore.First s.store.rules rules (RuleStore.withId (.text rule.id)) rule document) (neat : rule.Neat)
    {own : Fields} (mine : Own rule own) (untested : ¬ rule.Tested) :
    exec (update (.text rule.id) (.record own)) s = (.error (.refused (.ruleWithoutConditions rule.name)), s) := by
  have refused : RuleDraft.build (rule.fields.putAll own) = .error (.refused (.ruleWithoutConditions rule.name)) := by
    rw [mine.putAll, RuleDraft.build_fields (first.stands.sound neat) neat, if_pos]
    · rfl
    · simpa [Rule.Tested] using untested
  rw [exec_update_record (first.exec_get up), if_pos mine.known, put, exec_bind, exec_build, refused]

end RuleCatalog

end Countersign
