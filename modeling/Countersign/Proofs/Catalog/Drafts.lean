/-
Module: Countersign.Proofs.Catalog.Drafts
Purpose: What a rule that was built has from its draft.
Main exports: Rule.IsName, Rule.Tested, RuleDraft.Built, RuleDraft.built_of_build, RuleDraft.Built.sound,
  RuleDraft.Built.neat, RuleDraft.build_fields, RuleDraft.Built.updated, RuleCatalog.sound_of_default,
  RuleCatalog.neat_of_default
-/
import Countersign.Proofs.Catalog.Reading

namespace Countersign

/-!
A rule that is built has a name and roles without blanks at their ends, and no role twice. It has a condition if its
draft asks for an enabled rule. The draft is asked before its flag is read as a truth value, but no flag that does
not count as given is read as true.
-/

namespace Rule

/-- A text that is not blank and has no blanks at its ends. -/
def IsName (s : String) : Prop := s ≠ "" ∧ Text.Trimmed s

instance (s : String) : Decidable (IsName s) := inferInstanceAs (Decidable (_ ∧ _))

/-- A rule whose name and roles are neat: none is blank or has blanks at its ends, the name is not too long, and there
is a role, but none twice. -/
structure Neat (rule : Rule) : Prop where
  name : IsName rule.name
  short : Text.length rule.name ≤ maxName
  demanding : rule.approvers ≠ []
  roles : ∀ role ∈ rule.approvers, IsName role
  distinct : rule.approvers.Nodup

/-- A rule is still sound, and still neat, when it was updated at another time. -/
theorem Sound.updated {rule : Rule} (sound : rule.Sound) (time : Moment) : Sound { rule with updatedAt := time } :=
  ⟨sound.name, sound.conditions, sound.demanding, sound.named⟩

theorem Neat.updated {rule : Rule} (neat : rule.Neat) (time : Moment) : Neat { rule with updatedAt := time } :=
  ⟨neat.name, neat.short, neat.demanding, neat.roles, neat.distinct⟩

/-- A rule that has a condition if it is enabled. -/
def Tested (rule : Rule) : Prop := rule.enabled = true → rule.conditions ≠ []

end Rule

theorem Double.toInt?_of_isZero {x : Double} (zero : x.isZero = true) : x.toInt? = some 0 := by
  unfold isZero at zero
  split at zero
  · next negative shift =>
      have nothing : units negative 0 shift = 0 := by
        rw [units, Nat.zero_mul]
        cases negative <;> rfl
      change (if units negative 0 shift % unitsPerOne = 0 then some (units negative 0 shift / unitsPerOne)
        else none) = _
      rw [nothing, Int.zero_emod, Int.zero_ediv, if_pos rfl]
  · cases zero

/-- Only what counts as given is read as true. -/
theorem Reader.truthy_of_bool {v : Value} (read : bool v = .accepted true) : v.truthy = true := by
  cases v with
  | bool b => exact Checked.accepted.inj read
  | int n =>
      simp only [bool] at read
      split at read
      · cases read
      · next other => simpa [Value.truthy] using other
  | float x =>
      cases zero : x.isZero with
      | false => rw [Value.truthy, zero]; rfl
      | true =>
          have nothing : x.toInt? = some 0 := Double.toInt?_of_isZero zero
          simp only [bool, nothing, if_true] at read
          cases read
  | text s =>
      by_cases empty : s = ""
      · subst empty
        cases read
      · simpa [Value.truthy] using empty
  | _ => cases read

namespace RuleDraft

variable {draft : Fields} {rule : Rule}

/-- What succeeds as a whole succeeds in its first part. -/
theorem exists_of_bind_eq_ok {ε α β : Type} {first : Except ε α} {next : α → Except ε β} {b : β}
    (ran : first >>= next = .ok b) : ∃ a, first = .ok a ∧ next a = .ok b := by
  cases first with
  | error failure => cases ran
  | ok a => exact ⟨a, rfl, ran⟩

/-- A name that is given has no blanks at its ends. -/
theorem trimmed_of_nameOf {name : String} (given : nameOf draft = .ok name) : Text.Trimmed name := by
  unfold nameOf at given
  dsimp only at given
  split at given
  · obtain rfl := Except.ok.inj given
    exact by decide
  · split at given
    · obtain rfl := Except.ok.inj given
      exact Text.strip_trimmed _
    · cases given

/-- A role that is given is a name. -/
theorem isName_of_roleOf? {v : Value} {found : Option String} (given : roleOf? v = .ok found) :
    ∀ role ∈ found.toList, Rule.IsName role := by
  unfold roleOf? at given
  split at given
  · obtain rfl := Except.ok.inj given
    simp
  · split at given
    · obtain rfl := Except.ok.inj given
      split
      · simp
      · next named =>
          intro role member
          obtain rfl := List.mem_singleton.1 member
          exact ⟨by simpa using named, Text.strip_trimmed _⟩
    · cases given

theorem isName_of_rolesAmong {values : List Value} {roles : List String}
    (among : rolesAmong values = .ok roles) : ∀ role ∈ roles, Rule.IsName role := by
  induction values generalizing roles with
  | nil =>
      obtain rfl := Except.ok.inj among
      simp
  | cons v rest ih =>
      obtain ⟨found, given, among⟩ := exists_of_bind_eq_ok among
      obtain ⟨others, behind, among⟩ := exists_of_bind_eq_ok among
      obtain rfl := Except.ok.inj among
      exact List.forall_mem_append.2 ⟨isName_of_roleOf? given, ih behind⟩

/-- The roles of a draft are names, and none comes twice. -/
theorem isName_of_rolesOf {roles : List String} (given : rolesOf draft = .ok roles) :
    (∀ role ∈ roles, Rule.IsName role) ∧ roles.Nodup := by
  obtain ⟨values, -, given⟩ := exists_of_bind_eq_ok given
  obtain ⟨among, named, given⟩ := exists_of_bind_eq_ok given
  have once := Except.ok.inj given
  rw [Requirements.distinct_eq_eraseDups] at once
  subst once
  exact ⟨fun role member => isName_of_rolesAmong named role (List.mem_eraseDups.1 member), nodup_eraseDups _⟩

/-- What a rule has from the draft that it was built from. -/
structure Built (draft : Fields) (rule : Rule) : Prop where
  name : nameOf draft = .ok rule.name
  named : rule.name ≠ ""
  roles : rolesOf draft = .ok rule.approvers
  demanding : rule.approvers ≠ []
  conditions : conditionsOf rule.name draft = .ok rule.conditions
  tested : asksEnabled draft = true → rule.conditions ≠ []
  read : Rule.check (draft.putAll [("name", .text rule.name), ("required_approvers", .ofTexts rule.approvers),
    ("conditions", .list (rule.conditions.map Condition.value))]) = .accepted rule

/-- Conditions of a draft are read again from what they are written as. -/
theorem check_value_of_conditionsOf {name : String} {conditions : List Condition}
    (given : conditionsOf name draft = .ok conditions) :
    ∀ condition ∈ conditions, Condition.check condition.value = .accepted condition := by
  obtain ⟨values, -, given⟩ := exists_of_bind_eq_ok given
  split at given
  · next read =>
      obtain rfl := Except.ok.inj given
      intro condition member
      obtain ⟨v, -, known⟩ := Reader.exists_of_mem_items read member
      exact Condition.check_value known
  · cases given

theorem built_of_build (built : build draft = .ok rule) : Built draft rule := by
  unfold build at built
  obtain ⟨name, given, built⟩ := exists_of_bind_eq_ok built
  split at built
  · cases built
  next named =>
  obtain ⟨roles, demanded, built⟩ := exists_of_bind_eq_ok built
  split at built
  · cases built
  next filled =>
  obtain ⟨conditions, listed, built⟩ := exists_of_bind_eq_ok built
  split at built
  · cases built
  next tested =>
  dsimp only at built
  split at built
  · next rule' read =>
      obtain rfl := Except.ok.inj built
      obtain ⟨-, called, -, -, -, -, tests, approved, -, -⟩ := Rule.check_eq_accepted_iff.1 read
      obtain ⟨v, known, bounded⟩ := Fields.required_eq_accepted_iff.1 called
      rw [Fields.optional_of_get? (v := .list (conditions.map Condition.value)) (by simp [Fields.putAll,
        Fields.get?_put]), Reader.items_map (check_value_of_conditionsOf listed)] at tests
      rw [Fields.optional_of_get? (v := .ofTexts roles) (by simp [Fields.putAll, Fields.get?_put]),
        Reader.texts_ofTexts] at approved
      -- The rule is read from the draft with three fields overwritten, so these three are read as what was put there.
      have same : name = rule'.name := by
        have here : Fields.get? (draft.putAll [("name", .text name), ("required_approvers", .ofTexts roles),
            ("conditions", .list (conditions.map Condition.value))]) "name" = some (.text name) := by
          simp [Fields.putAll, Fields.get?_put]
        rw [here] at known
        rw [← Option.some.inj known] at bounded
        exact Value.text.inj (Reader.eq_text_of_boundedText bounded)
      have alike := Checked.accepted.inj approved
      have tests := Checked.accepted.inj tests
      subst same alike tests
      exact ⟨given, by simpa using named, demanded, by simpa using filled, listed,
        fun asks none => tested (by simp [asks, none]), read⟩
  · cases built

/-- A draft that has all this is built. -/
theorem build_of_built (built : Built draft rule) : build draft = .ok rule := by
  have named : ¬ rule.name.isEmpty = true := by simpa using built.named
  have filled : ¬ rule.approvers.isEmpty = true := by simpa using built.demanding
  have tested : ¬ (asksEnabled draft && rule.conditions.isEmpty) = true := by simpa using built.tested
  simp only [build, bind, Except.bind, built.name, built.roles, built.conditions, if_neg named, if_neg filled,
    if_neg tested, built.read]
  rfl

/-! ### What is given as it is read -/

/-- A name without blanks at its ends is given as it is. -/
theorem nameOf_of_get? {name : String} (here : draft.get? "name" = some (.text name)) (trimmed : Text.Trimmed name) :
    nameOf draft = .ok name := by
  rw [nameOf, Fields.getD, here]
  by_cases empty : name = ""
  · subst empty
    rfl
  · simp [Value.truthy, empty, Text.strip_of_trimmed trimmed]

/-- The members of a list that is given. -/
theorem membersIn_of_get? {name : String} {values : List Value} (here : draft.get? name = some (.list values)) :
    membersIn draft name = .ok values := by
  rw [membersIn, Fields.getD, here]
  cases values <;> rfl

theorem rolesAmong_names {roles : List String} (named : ∀ role ∈ roles, Rule.IsName role) :
    rolesAmong (roles.map .text) = .ok roles := by
  induction roles with
  | nil => rfl
  | cons role rest ih =>
      obtain ⟨⟨filled, trimmed⟩, others⟩ := List.forall_mem_cons.1 named
      have read : roleOf? (.text role) = .ok (some role) := by
        simp [roleOf?, Value.truthy, filled, Text.strip_of_trimmed trimmed]
      rw [List.map_cons, rolesAmong, read, ih others]
      rfl

/-- Neat roles are given as they are. -/
theorem rolesOf_of_get? {roles : List String} (here : draft.get? "required_approvers" = some (.ofTexts roles))
    (named : ∀ role ∈ roles, Rule.IsName role) (nodup : roles.Nodup) : rolesOf draft = .ok roles := by
  rw [rolesOf, membersIn_of_get? here]
  simp only [bind, Except.bind, rolesAmong_names named, Requirements.distinct_eq_eraseDups, eraseDups_of_nodup nodup]
  rfl

/-- Conditions are given as they are written. -/
theorem conditionsOf_of_get? {name : String} {conditions : List Condition}
    (here : draft.get? "conditions" = some (.list (conditions.map Condition.value)))
    (again : ∀ condition ∈ conditions, Condition.check condition.value = .accepted condition) :
    conditionsOf name draft = .ok conditions := by
  rw [conditionsOf, membersIn_of_get? here]
  simp only [bind, Except.bind, Reader.items_map again]
  rfl

/-- The fields of a sound and neat rule are built as that rule, unless it is enabled and has no condition. -/
theorem build_fields (sound : rule.Sound) (neat : rule.Neat) :
    build rule.fields =
      if rule.enabled && rule.conditions.isEmpty then refuse (.ruleWithoutConditions rule.name) else .ok rule := by
  have named : ¬ rule.name.isEmpty = true := by simpa using neat.name.1
  have filled : ¬ rule.approvers.isEmpty = true := by simpa using neat.demanding
  have asks : asksEnabled rule.fields = rule.enabled := rfl
  have whole : rule.fields.putAll [("name", .text rule.name), ("required_approvers", .ofTexts rule.approvers),
      ("conditions", .list (rule.conditions.map Condition.value))] = rule.fields := by
    apply Fields.putAll_of_get?
    simp only [List.forall_mem_cons]
    exact ⟨rfl, rfl, rfl, by simp⟩
  have read : Rule.check rule.fields = .accepted rule :=
    Rule.Fills.check (fun _ _ => rfl) sound.name sound.conditions
  have called : nameOf rule.fields = .ok rule.name := nameOf_of_get? rfl neat.name.2
  have demanded : rolesOf rule.fields = .ok rule.approvers := rolesOf_of_get? rfl neat.roles neat.distinct
  have listed : conditionsOf rule.name rule.fields = .ok rule.conditions := conditionsOf_of_get? rfl sound.conditions
  simp only [build, bind, Except.bind, called, demanded, listed, if_neg named, if_neg filled, asks, whole, read]
  rfl

namespace Built

/-- A rule that was built is sound. -/
theorem sound (built : Built draft rule) : rule.Sound where
  name := Rule.name_of_check built.read
  conditions := Rule.conditions_of_check built.read
  demanding := built.demanding
  named role member := ((isName_of_rolesOf built.roles).1 role member).1

/-- A rule that was built has a neat name and neat roles. -/
theorem neat (built : Built draft rule) : rule.Neat where
  name := ⟨built.named, trimmed_of_nameOf built.name⟩
  short := Reader.length_le_of_boundedText (Rule.name_of_check built.read)
  demanding := built.demanding
  roles := (isName_of_rolesOf built.roles).1
  distinct := (isName_of_rolesOf built.roles).2

/-- A field that building leaves alone is read from the draft. -/
theorem enabled (built : Built draft rule) :
    draft.optional "is_enabled" true Reader.bool = .accepted rule.enabled := by
  obtain ⟨-, -, -, -, enabled, -⟩ := Rule.check_eq_accepted_iff.1 built.read
  have same : Fields.get? (draft.putAll [("name", .text rule.name), ("required_approvers", .ofTexts rule.approvers),
      ("conditions", .list (rule.conditions.map Condition.value))]) "is_enabled" = draft.get? "is_enabled" := by
    simp [Fields.putAll, Fields.get?_put]
  unfold Fields.optional at enabled ⊢
  rwa [same] at enabled

/-- A rule that was built has a condition if it is enabled. -/
theorem isTested (built : Built draft rule) : rule.Tested := by
  intro enabled
  have read := built.enabled
  rw [enabled] at read
  apply built.tested
  unfold asksEnabled
  cases given : draft.get? "is_enabled" with
  | none => rfl
  | some v => exact Reader.truthy_of_bool ((Fields.optional_of_get? given).1 read)

/-- A flag that was not sent is that of the rule that is changed. -/
theorem enabled_eq {current : Rule} {updates : Fields} (built : Built (current.fields.putAll updates) rule)
    (unsent : updates.has "is_enabled" = false) : rule.enabled = current.enabled := by
  have here : (current.fields.putAll updates).get? "is_enabled" = some (.bool current.enabled) :=
    Fields.get?_putAll_of_missing _ unsent
  have read := (Fields.optional_of_get? here).1 built.enabled
  exact (Checked.accepted.inj read).symm

/-- Conditions that were not sent are those of the rule that is changed. -/
theorem conditions_eq {current : Rule} {updates : Fields} (built : Built (current.fields.putAll updates) rule)
    (unsent : updates.has "conditions" = false)
    (again : ∀ condition ∈ current.conditions, Condition.check condition.value = .accepted condition) :
    rule.conditions = current.conditions := by
  have here : (current.fields.putAll updates).get? "conditions" =
      some (.list (current.conditions.map Condition.value)) := Fields.get?_putAll_of_missing _ unsent
  exact Except.ok.inj (built.conditions.symm.trans (conditionsOf_of_get? here again))

/-- A name that was not sent is that of the rule that is changed. -/
theorem name_eq {current : Rule} {updates : Fields} (built : Built (current.fields.putAll updates) rule)
    (unsent : updates.has "name" = false) (neat : current.Neat) : rule.name = current.name := by
  have here : (current.fields.putAll updates).get? "name" = some (.text current.name) :=
    Fields.get?_putAll_of_missing _ unsent
  exact Except.ok.inj (built.name.symm.trans (nameOf_of_get? here neat.name.2))

/-- What is built from a draft with another time of the last change differs in that time alone. -/
theorem updated {other : Fields} {time : Moment} (built : Built draft rule)
    (alike : ∀ {name}, name ≠ "updated_at" → other.get? name = draft.get? name)
    (here : other.get? "updated_at" = some (.moment time)) : Built other { rule with updatedAt := time } := by
  have same {name : String} (different : name ≠ "updated_at") : other.getD name = draft.getD name := by
    rw [Fields.getD, Fields.getD, alike different]
  have name : nameOf other = nameOf draft := by rw [nameOf, nameOf, same (by decide)]
  have roles : rolesOf other = rolesOf draft := by rw [rolesOf, rolesOf, membersIn, membersIn, same (by decide)]
  have conditions : conditionsOf rule.name other = conditionsOf rule.name draft := by
    rw [conditionsOf, conditionsOf, membersIn, membersIn, same (by decide)]
  have asks : asksEnabled other = asksEnabled draft := by rw [asksEnabled, asksEnabled, alike (by decide)]
  refine ⟨name.trans built.name, built.named, roles.trans built.roles, built.demanding,
    conditions.trans built.conditions, fun asked => built.tested (asks.symm.trans asked), ?_⟩
  refine Rule.check_updated time (fun different => Fields.get?_putAll_congr fun _ => alike different) ?_ built.read
  exact (Fields.get?_putAll_of_missing _ rfl).trans here

end Built

end RuleDraft

/-! ### Default rules -/

namespace RuleCatalog

variable {rule : DefaultRule}

/-- Every default rule is sound. -/
theorem sound_of_default (member : rule ∈ defaultRules) (id : String) (time : Moment) : (rule.rule id time).Sound := by
  have named : ∀ rule ∈ defaultRules,
      Reader.boundedText 1 (some Rule.maxName) (.text rule.name) = .accepted rule.name := by
    simp only [defaultRules, List.forall_mem_cons]
    exact ⟨rfl, rfl, rfl, by simp⟩
  have conditions : ∀ rule ∈ defaultRules, ∀ condition ∈ rule.conditions,
      Condition.check condition.value = .accepted condition := by
    simp only [defaultRules, List.forall_mem_cons]
    exact ⟨⟨rfl, rfl, by simp⟩, ⟨rfl, rfl, by simp⟩, ⟨rfl, by simp⟩, by simp⟩
  have demanding : ∀ rule ∈ defaultRules, rule.approvers ≠ [] ∧ ∀ role ∈ rule.approvers, role ≠ "" := by
    simp [defaultRules]
  exact ⟨named rule member, conditions rule member, (demanding rule member).1, (demanding rule member).2⟩

/-- Every default rule is neat, and has a condition. -/
theorem neat_of_default (member : rule ∈ defaultRules) (id : String) (time : Moment) :
    (rule.rule id time).Neat ∧ (rule.rule id time).Tested := by
  have neat : ∀ rule ∈ defaultRules, Rule.IsName rule.name ∧ (∀ role ∈ rule.approvers, Rule.IsName role) ∧
      rule.approvers.Nodup ∧ rule.conditions ≠ [] := by
    decide +kernel
  obtain ⟨named, roles, distinct, tested⟩ := neat rule member
  have sound := sound_of_default member id time
  exact ⟨⟨named, Reader.length_le_of_boundedText sound.name, sound.demanding, roles, distinct⟩, fun _ => tested⟩

end RuleCatalog

end Countersign
