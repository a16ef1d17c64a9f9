/-
Module: Countersign.Proofs.Catalog.Refusing
Purpose: How the commands of the rules' authors end.
Main exports: RuleDraft.Typed, RuleDraft.refused_of_build, RuleCatalog.create_ends, RuleCatalog.update_ends,
  RuleCatalog.toggle_tells, RuleCatalog.seed_tells
-/
import Countersign.Proofs.Catalog.Authored
import Countersign.Proofs.Catalog.Seeding

namespace Countersign

open Service

/-!
What is wrong with a draft is told to its author, where its name is a text, its roles are texts and its conditions are
a list. Then a command of an author is a surprise only where the rule was built and the store does not keep it.
-/

variable {s : ServiceState} {rules : List Rule}

namespace RuleDraft

/-- A value of the kind that a field of a draft has, or one that does not count as given. -/
def Typed (name : String) (v : Value) : Prop :=
  v.truthy = true →
    (name = "name" → ∃ s, v = .text s) ∧ (name = "required_approvers" → ∃ roles, v = .ofTexts roles) ∧
      (name = "conditions" → ∃ values, v = .list values)

/-- A draft all of whose fields are such. -/
def IsTyped (draft : Fields) : Prop := ∀ name v, draft.get? name = some v → Typed name v

variable {draft : Fields}

theorem IsTyped.getD (typed : IsTyped draft) (name : String) : Typed name (draft.getD name) := by
  rw [Fields.getD]
  cases found : draft.get? name with
  | none => exact fun given => by cases given
  | some v => exact typed name v found

/-- Values of these kinds may be put over others. -/
theorem IsTyped.putAll {updates : Fields} (typed : IsTyped draft)
    (more : ∀ field ∈ updates, Typed field.1 field.2) : IsTyped (draft.putAll updates) := by
  induction updates generalizing draft with
  | nil => exact typed
  | cons first rest ih =>
      obtain ⟨name, v⟩ := first
      obtain ⟨here, others⟩ := List.forall_mem_cons.1 more
      refine ih (fun other w found => ?_) others
      rw [Fields.get?_put] at found
      split at found
      · next same =>
          obtain rfl := Option.some.inj found
          exact same ▸ here
      · exact typed other w found

theorem exists_nameOf (typed : IsTyped draft) : ∃ name, nameOf draft = .ok name := by
  rw [nameOf]
  by_cases given : (draft.getD "name").truthy = true
  · obtain ⟨s, text⟩ := (typed.getD "name" given).1 rfl
    rw [text] at given ⊢
    simp [given]
  · simp [given]

theorem exists_rolesAmong (roles : List String) : ∃ found, rolesAmong (roles.map .text) = .ok found := by
  induction roles with
  | nil => exact ⟨[], rfl⟩
  | cons role rest ih =>
      obtain ⟨others, behind⟩ := ih
      obtain ⟨role?, read⟩ : ∃ role?, roleOf? (.text role) = .ok role? := by
        unfold roleOf?
        split <;> exact ⟨_, rfl⟩
      exact ⟨role?.toList ++ others, by rw [List.map_cons, rolesAmong, read, behind]; rfl⟩

theorem exists_rolesOf (typed : IsTyped draft) : ∃ roles, rolesOf draft = .ok roles := by
  obtain ⟨given, members⟩ : ∃ given : List String, membersIn draft "required_approvers" = .ok (given.map .text) := by
    rw [membersIn]
    by_cases given : (draft.getD "required_approvers").truthy = true
    · obtain ⟨roles, texts⟩ := (typed.getD "required_approvers" given).2.1 rfl
      rw [texts] at given ⊢
      exact ⟨roles, if_pos given⟩
    · exact ⟨[], by simp [given]⟩
  obtain ⟨roles, read⟩ := exists_rolesAmong given
  exact ⟨Requirements.distinct roles, by rw [rolesOf, members]; simp only [bind, Except.bind, read]; rfl⟩

theorem refused_of_conditionsOf (typed : IsTyped draft) {name : String} {failure : Failure}
    (failed : conditionsOf name draft = .error failure) : ∃ refusal, failure = .refused refusal := by
  obtain ⟨values, members⟩ : ∃ values, membersIn draft "conditions" = .ok values := by
    rw [membersIn]
    by_cases given : (draft.getD "conditions").truthy = true
    · obtain ⟨values, list⟩ := (typed.getD "conditions" given).2.2 rfl
      rw [list] at given ⊢
      exact ⟨values, if_pos given⟩
    · exact ⟨[], by simp [given]⟩
  rw [conditionsOf, members] at failed
  simp only [bind, Except.bind] at failed
  split at failed
  · cases failed
  · exact ⟨_, (Except.error.inj failed).symm⟩

/-- What is wrong with such a draft is told. -/
theorem refused_of_build (typed : IsTyped draft) {failure : Failure} (failed : build draft = .error failure) :
    ∃ refusal, failure = .refused refusal := by
  obtain ⟨name, named⟩ := exists_nameOf typed
  obtain ⟨roles, demanded⟩ := exists_rolesOf typed
  rw [build, named] at failed
  simp only [bind, Except.bind, demanded] at failed
  split at failed
  · exact ⟨_, (Except.error.inj failed).symm⟩
  split at failed
  · exact ⟨_, (Except.error.inj failed).symm⟩
  cases listed : conditionsOf name draft with
  | error other =>
      rw [listed] at failed
      obtain rfl := Except.error.inj failed
      exact refused_of_conditionsOf typed listed
  | ok conditions =>
      rw [listed] at failed
      dsimp only at failed
      split at failed
      · exact ⟨_, (Except.error.inj failed).symm⟩
      split at failed
      · cases failed
      · exact ⟨_, (Except.error.inj failed).symm⟩

/-- The fields of a rule are such. -/
theorem typed_fields (rule : Rule) : IsTyped rule.fields := by
  intro name v found given
  have member := Fields.mem_of_get? found
  simp only [Rule.fields, Rule.body, List.cons_append, List.nil_append, List.mem_cons, List.not_mem_nil, or_false,
    Prod.mk.injEq] at member
  refine ⟨?_, ?_, ?_⟩ <;> rintro rfl <;> simp at member <;> exact ⟨_, member⟩

end RuleDraft

/-! ### Reading -/

namespace RuleStore

theorem read?_tells (document : Document) : Tells (read? document) s := by
  rw [read?]
  split
  · exact .pure trivial
  · exact Ends.note.bind fun _ _ _ _ => .pure trivial

theorem find?_tells (id : String) : Tells (find? (.text id)) s := by
  refine (findOne_tells (Query.decides_text "rule_id" id)).bind fun found _ _ _ => ?_
  cases found with
  | none => exact .pure trivial
  | some document => exact read?_tells document

theorem get_tells (id : String) : Tells (get (.text id)) s := by
  refine (find?_tells id).bind fun found _ _ _ => ?_
  cases found with
  | none => exact .refuse
  | some rule => exact .pure trivial

theorem findByName?_tells (name : String) : Tells (findByName? (.text name)) s := by
  refine (findOne_tells (Query.decides_text "name" name)).bind fun found _ _ _ => ?_
  cases found with
  | none => exact .pure trivial
  | some document => exact read?_tells document

theorem readAll_tells (documents : List Document) : Tells (readAll documents) s := by
  induction documents generalizing s with
  | nil => exact .pure trivial
  | cons document rest ih =>
      exact (read?_tells document).bind fun _ _ _ _ => ih.bind fun _ _ _ _ => .pure trivial

theorem list_tells (enabledOnly : Bool) : Tells (list enabledOnly) s := by
  have wants : ∃ test, Query.Decides (wanted enabledOnly) test := by
    cases enabledOnly with
    | false => exact ⟨fun _ => true, fun _ => rfl⟩
    | true => exact ⟨_, Query.decides_bool "is_enabled" true⟩
  obtain ⟨test, decides⟩ := wants
  exact (select_ends decides _).bind fun documents _ _ _ => readAll_tells documents

theorem remove_tells (id : String) : Tells (remove (.text id)) s :=
  (Service.remove_tells (Query.decides_text "rule_id" id)).bind fun _ _ _ _ => .ite (fun _ => .note) fun _ => .refuse

end RuleStore

/-! ### Writing -/

namespace RuleCatalog

theorem build_ends {draft : Fields} (typed : RuleDraft.IsTyped draft) :
    Ends (fun rule => RuleDraft.build draft = .ok rule) Failure.Told (build draft) s := by
  cases made : RuleDraft.build draft with
  | ok rule => exact .of_ok ((exec_build draft s).trans (by rw [made])) rfl
  | error failure =>
      obtain ⟨refusal, rfl⟩ := RuleDraft.refused_of_build typed made
      exact .of_error ((exec_build draft s).trans (by rw [made])) (.refused refusal)

theorem ensureNameFree_tells (name : String) (ownId : Option Value) : Tells (ensureNameFree name ownId) s := by
  refine (RuleStore.findByName?_tells name).bind fun found _ _ _ => ?_
  cases found with
  | none => exact .pure trivial
  | some holder => exact .ite (fun _ => .pure trivial) fun _ => .refuse

/-- What a store makes of the new rule that a draft describes. -/
def Unkept (draft : Fields) : Prop :=
  ∃ rule, RuleDraft.build draft = .ok rule ∧ Document.admissionFault? rule.document ≠ none

/-- Creating a rule is a surprise only where the store does not keep the rule that was built. -/
theorem create_ends (up : s.down = false) (wellKept : WellKept s.store.rules rules) {sent : NewRule}
    (typed : ∀ id time, RuleDraft.IsTyped (sent.draft id time)) :
    Ends (fun _ => True) (fun failure => failure.Told ∨ ∃ id time, Unkept (sent.draft id time)) (create sent) s := by
  refine .ok_bind (exec_now s) (.ok_bind (exec_newId "RULE" s) ?_)
  refine ((build_ends (typed _ _)).mono (fun _ => id) fun _ => Or.inl).bind fun rule s' ran made => ?_
  obtain rfl : s.afterNew "RULE" = s' := congrArg Prod.snd ((exec_build _ _).symm.trans ran)
  refine (Ends.of_tells (ensureNameFree_tells _ _)).bind fun _ s' ran _ => ?_
  have still := ensureNameFree_asks rule.name none (s.afterNew "RULE")
  rw [ran] at still
  have built := RuleDraft.built_of_build made
  rcases RuleStore.exec_add_rule_cases (still.down.trans up) (still.store ▸ wellKept) built.sound built.neat with
    ⟨failure, failed, told | unfit⟩ | ⟨documents, journal, added, -⟩
  · exact .of_error failed (Or.inl told)
  · exact .of_error failed (Or.inr ⟨_, _, rule, made, unfit⟩)
  · exact .ok added

/-- A change of a rule to what the store does not keep: it is built, and a field that was sent is not kept. -/
def ChangeUnkept (current : Rule) (updates : Fields) : Prop :=
  ∃ rule field, RuleDraft.build (current.fields.putAll updates) = .ok rule ∧ field ∈ sentOf updates rule ∧
    field.2.storeFault? ≠ none

/-- Changing a rule is a surprise only where the store does not keep a field that was sent. -/
theorem update_ends (up : s.down = false) (wellKept : WellKept s.store.rules rules) (id : String) {updates : Fields}
    (typed : ∀ field ∈ updates, RuleDraft.Typed field.1 field.2) :
    Ends (fun _ => True)
      (fun failure => failure.Told ∨ ∃ current ∈ rules, current.id = id ∧ ChangeUnkept current updates)
      (update (.text id) (.record updates)) s := by
  refine (Ends.of_tells (RuleStore.get_tells id)).bind fun current s' ran _ => ?_
  rcases RuleStore.exec_get_cases up wellKept (.text id) with ⟨failure, missed⟩ | ⟨rule, document, ⟨first⟩, got⟩
  · cases missed.symm.trans ran
  obtain ⟨same, rfl⟩ := Prod.mk.inj (got.symm.trans ran)
  obtain rfl := Except.ok.inj same
  dsimp only [namesAndUpdates]
  by_cases stray : (!(updates.names.filter fun name => !changeable.contains name).isEmpty) = true
  · rw [if_pos stray]
    exact .throw (Or.inl (.refused _))
  rw [if_neg stray, if_neg (by simp [Fields.names])]
  have fixed (changed : Rule) : (sentOf updates changed).has "rule_id" = false :=
    (has_sentOf updates changed rfl).trans (unsent_of_fixed stray (by decide))
  have built := @build_ends s _ ((RuleDraft.typed_fields rule).putAll typed)
  refine (built.mono (fun _ made => made) fun _ => Or.inl).bind fun changed s' ran made => ?_
  obtain rfl : s = s' := congrArg Prod.snd ((exec_build _ _).symm.trans ran)
  have stored {s' : ServiceState} (still : Asked s s') : Ends (fun _ => True)
      (fun failure => failure.Told ∨ ∃ current ∈ rules, current.id = id ∧ ChangeUnkept current updates)
      (RuleStore.update (.text id) (sentOf updates changed)) s' := by
    have there : RuleStore.First s'.store.rules rules (RuleStore.withId (.text id)) rule document := by
      rwa [still.store]
    have offered : ∀ field ∈ sentOf updates changed, field ∈ changed.body :=
      fun field sent => (List.mem_filter.1 sent).1
    rcases RuleStore.exec_update_cases (still.down.trans up) there (RuleDraft.built_of_build made).sound offered
        (fixed changed) with
      ⟨refusal, failed, -⟩ | ⟨given, name, v, rest, fault, parts, -, refused, after, -, stopped⟩ |
        ⟨-, other, after, journal, -, done, -⟩
    · exact .of_error failed (Or.inl (.refused _))
    · refine .of_error stopped
        (Or.inr ⟨rule, first.member, first.id_eq, changed, (name, v), made, ?_, by simp [refused]⟩)
      rw [parts]
      simp
    · exact .ok done
  refine .ite (fun renamed => ?_) fun same => stored (.refl s)
  refine (Ends.of_tells (ensureNameFree_tells _ _)).bind fun _ s' ran _ => stored ?_
  have asked := ensureNameFree_asks changed.name (some (.text id)) s
  rwa [ran] at asked

/-- A flag is kept, so switching a rule on or off is never a surprise. -/
theorem toggle_tells (up : s.down = false) (wellKept : WellKept s.store.rules rules) (id : String) :
    Tells (toggle (.text id)) s := by
  refine (RuleStore.get_tells id).bind fun current s' ran _ => ?_
  have same := RuleStore.get_asks (.text id) s
  rw [ran] at same
  have flag : ∀ field ∈ [("is_enabled", Value.bool !current.enabled)], RuleDraft.Typed field.1 field.2 := by
    intro field member given
    obtain rfl := List.mem_singleton.1 member
    simp
  refine (update_ends (same.down.trans up) (same.store ▸ wellKept) id flag).mono (fun _ done => done) ?_
  rintro failure (told | ⟨current, -, -, rule, field, -, sent, unkept⟩)
  · exact told
  · rw [sentOf_flag, List.mem_singleton] at sent
    rw [sent] at unkept
    exact absurd rfl unkept

/-- Filling an empty catalog never fails. -/
theorem seed_tells (up : s.down = false) (wellKept : WellKept s.store.rules rules) : Tells seed s := by
  rcases exec_seed_cases up wellKept with ⟨journal, ran⟩ | ⟨made, documents, s', -, ran, -⟩
  · exact .ok ran
  · exact .ok ran

end RuleCatalog

end Countersign
