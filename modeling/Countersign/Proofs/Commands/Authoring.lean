/-
Module: Countersign.Proofs.Commands.Authoring
Purpose: What the commands of the rules' authors keep.
Main exports: Rule.Offers, Service.KeptByAuthors, RuleCatalog.create_keeps, RuleCatalog.update_keeps,
  RuleCatalog.toggle_keeps, RuleStore.remove_keeps, RuleCatalog.seed_keeps
-/
import Countersign.Proofs.Catalog.Drafts
import Countersign.Proofs.Commands.Asking

namespace Countersign

open Service

/-!
The rules' authors do three things to the store: they insert sound rules, give rules fields of sound rules, and
remove rules. What these three keep is kept by all of their commands, whatever else the commands ask and wherever
they fail.
-/

/-- A field that some sound rule has. -/
def Rule.Offers (field : String × Value) : Prop := ∃ rule : Rule, rule.Sound ∧ field ∈ rule.fields

/-- What the store keeps of a field that a sound rule has may be a field of the document of a rule. -/
theorem Rule.Offers.fits {field : String × Value} (offers : Rule.Offers field)
    (storable : field.2.storeFault? = none) : Rule.Fits field.1 field.2 := by
  obtain ⟨rule, sound, member⟩ := offers
  refine ⟨rule, sound, ?_, storable⟩
  simp only [Rule.fields, Rule.body, List.cons_append, List.nil_append, List.mem_cons, List.not_mem_nil,
    or_false] at member
  rcases member with rfl | rfl | rfl | rfl | rfl | rfl | rfl | rfl | rfl | rfl <;> rfl

theorem Rule.Offers.name_mem {field : String × Value} (offers : Rule.Offers field) :
    field.1 ∈ Rule.fieldNames := by
  obtain ⟨rule, -, member⟩ := offers
  exact List.mem_map_of_mem (f := Prod.fst) member

/-- The fields of a record in which one was put. -/
theorem Fields.mem_put {fields : Fields} {name : String} {v : Value} {field : String × Value}
    (member : field ∈ fields.put name v) : field ∈ fields ∨ field = (name, v) := by
  induction fields with
  | nil => exact Or.inr (List.mem_singleton.1 member)
  | cons first rest ih =>
      obtain ⟨key, value⟩ := first
      unfold Fields.put at member
      split at member
      · next same =>
          rcases List.mem_cons.1 member with rfl | later
          · exact Or.inr (by rw [same])
          · exact Or.inl (List.mem_cons_of_mem _ later)
      · rcases List.mem_cons.1 member with rfl | later
        · exact Or.inl (by simp)
        · exact (ih later).imp_left (List.mem_cons_of_mem _)

namespace Service

/-- What holds after authors asked, and inserted, changed or removed a rule, where it held before. -/
structure KeptByAuthors (kept : ServiceState → Prop) : Prop where
  asks : ∀ {α : Type} {part : Service α}, Asks part → Keeps kept part
  insert : ∀ {rule : Rule}, rule.Sound → Keeps kept (insert .rules rule.document)
  update : ∀ {query : Query} {wanted updates : Fields}, (∀ field ∈ updates, Rule.Offers field) →
    Keeps kept (update .rules query (Change.assignAll wanted updates))
  remove : ∀ {query : Query}, Keeps kept (remove .rules query)

/-- What is kept however the table of rules is written is kept by its authors. -/
theorem KeptByWriting.authors {kept : ServiceState → Prop} (writing : KeptByWriting kept .rules) :
    KeptByAuthors kept where
  asks := writing.asks
  insert _ := writing.insert
  update _ := writing.update
  remove := writing.remove

end Service

variable {kept : ServiceState → Prop}

namespace RuleStore

theorem add_keeps (authors : KeptByAuthors kept) {rule : Rule} (sound : rule.Sound) : Keeps kept (add rule) :=
  .bind (authors.insert sound) fun _ => .ite (.bind (authors.asks .note) fun _ => .pure) .throw

theorem insertAll_keeps (authors : KeptByAuthors kept) {rules : List Rule} (sound : ∀ rule ∈ rules, rule.Sound) :
    Keeps kept (insertAll rules) := by
  induction rules with
  | nil => exact .pure
  | cons rule rest ih =>
      obtain ⟨first, others⟩ := List.forall_mem_cons.1 sound
      exact .bind (authors.insert first) fun _ => .ite (ih others) .throw

theorem addAll_keeps (authors : KeptByAuthors kept) {rules : List Rule} (sound : ∀ rule ∈ rules, rule.Sound) :
    Keeps kept (addAll rules) :=
  .ite .pure (.bind (insertAll_keeps authors sound) fun _ => .bind (authors.asks .note) fun _ => .pure)

theorem update_keeps (authors : KeptByAuthors kept) (id : Value) {rule : Rule} (sound : rule.Sound)
    {updates : Fields} (fields : ∀ field ∈ updates, field ∈ rule.fields) : Keeps kept (update id updates) := by
  have offered (time : Moment) : ∀ field ∈ updates.put "updated_at" (.moment time), Rule.Offers field := by
    intro field member
    rcases Fields.mem_put member with sent | rfl
    · exact ⟨rule, sound, fields field sent⟩
    · exact ⟨{ rule with updatedAt := time },
        ⟨sound.name, sound.conditions, sound.demanding, sound.named⟩, by simp [Rule.fields]⟩
  refine .bind (authors.asks .now) fun time => .bind (.attempt (authors.update (offered time))) fun outcome => ?_
  split
  · exact .throw
  · exact .throw
  · exact .throw
  · refine authors.asks (.bind .note fun _ => .bind (read?_asks _) fun found => ?_)
    cases found
    · exact .refuse
    · exact .pure

theorem remove_keeps (authors : KeptByAuthors kept) (id : Value) : Keeps kept (remove id) :=
  .bind authors.remove fun _ => authors.asks (.ite .note .refuse)

end RuleStore

namespace RuleCatalog

/-- A rule that was built is sound. -/
theorem sound_of_exec_build {draft : Fields} {rule : Rule} {s s' : ServiceState}
    (built : exec (build draft) s = (.ok rule, s')) : rule.Sound := by
  unfold build at built
  split at built
  · next rule' known =>
      obtain rfl := Except.ok.inj (congrArg Prod.fst built)
      exact (RuleDraft.built_of_build known).sound
  · cases congrArg Prod.fst built

/-- Default rules that were given ids are sound. -/
theorem sound_of_exec_numbered {time : Moment} {rules : List DefaultRule} {made : List Rule} {s s' : ServiceState}
    (default : ∀ rule ∈ rules, rule ∈ defaultRules) (numbered : exec (numbered time rules) s = (.ok made, s')) :
    ∀ rule ∈ made, rule.Sound := by
  induction rules generalizing made s s' with
  | nil =>
      obtain rfl := Except.ok.inj (congrArg Prod.fst numbered)
      simp
  | cons rule rest ih =>
      obtain ⟨here, others⟩ := List.forall_mem_cons.1 default
      rw [RuleCatalog.numbered, exec_bind_ok (exec_newId "RULE" s), exec_bind] at numbered
      cases ran : exec (RuleCatalog.numbered time rest) (s.afterNew "RULE") with
      | mk outcome later =>
          rw [ran] at numbered
          cases outcome with
          | error failure => cases congrArg Prod.fst numbered
          | ok behind =>
              obtain rfl := Except.ok.inj (congrArg Prod.fst numbered)
              exact List.forall_mem_cons.2 ⟨sound_of_default here _ _, ih others ran⟩

theorem create_keeps (authors : KeptByAuthors kept) (sent : NewRule) : Keeps kept (create sent) :=
  .bind (authors.asks .now) fun time => .bind (authors.asks .newId) fun id =>
    .bind_answer (authors.asks (build_asks (sent.draft id time))) fun built =>
      .bind (authors.asks (ensureNameFree_asks _ none)) fun _ =>
        RuleStore.add_keeps authors (sound_of_exec_build built)

theorem update_keeps (authors : KeptByAuthors kept) (id updates : Value) : Keeps kept (update id updates) := by
  refine .bind (authors.asks (RuleStore.get_asks id)) fun current => ?_
  split
  · exact .throw
  · next names fields _ =>
      have store {rule : Rule} (sound : rule.Sound) :
          Keeps kept (RuleStore.update id (rule.body.filter fun entry => fields.has entry.1)) :=
        RuleStore.update_keeps authors id sound fun field sent =>
          List.mem_append_left _ (List.mem_filter.1 sent).1
      have changed : Keeps kept (build (current.fields.putAll fields) >>= fun rule =>
          if rule.name ≠ current.name then ensureNameFree rule.name (some id) >>= fun _ =>
            RuleStore.update id (rule.body.filter fun entry => fields.has entry.1)
          else RuleStore.update id (rule.body.filter fun entry => fields.has entry.1)) :=
        .bind_answer (authors.asks (build_asks _)) fun built =>
          .ite (.bind (authors.asks (ensureNameFree_asks _ _)) fun _ => store (sound_of_exec_build built))
            (store (sound_of_exec_build built))
      exact .ite (.bind .throw fun _ => .ite (.bind .throw fun _ => changed) changed)
        (.ite (.bind .throw fun _ => changed) changed)

theorem toggle_keeps (authors : KeptByAuthors kept) (id : Value) : Keeps kept (toggle id) :=
  .bind (authors.asks (RuleStore.get_asks id)) fun _ => update_keeps authors id _

theorem seed_keeps (authors : KeptByAuthors kept) : Keeps kept seed := by
  refine .bind (authors.asks RuleStore.count_asks) fun size => .ite (authors.asks (.bind .note fun _ => .pure)) ?_
  exact .bind (authors.asks .now) fun time =>
    .bind_answer (authors.asks (numbered_asks time defaultRules)) fun numbered =>
      .bind (RuleStore.addAll_keeps authors (sound_of_exec_numbered (fun _ => id) numbered)) fun _ =>
        .bind (authors.asks .note) fun _ => .pure

end RuleCatalog

end Countersign
