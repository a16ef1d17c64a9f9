/-
Module: Countersign.Proofs.Commands.Catalog
Purpose: Who writes to the catalog, and that every stored document of it is that of a rule.
Main exports: ServiceState.RulesHave, ServiceState.RulesHave.keptBySubmitting, ServiceState.RulesHave.keptByRouting,
  ServiceState.Cataloged, ServiceState.Cataloged.keptByAuthors
-/
import Countersign.Proofs.Commands.Authoring
import Countersign.Proofs.Commands.Submitting

namespace Countersign

open Service

/-!
The catalog is written by its authors alone, so all others keep what holds of it. The authors insert sound rules,
which are kept as documents of rules, and a change puts fields of sound rules into a document, so that it stays the
document of a rule even where the change stops half-way or is refused.
-/

/-- A state in which something holds of the table of rules. -/
def ServiceState.RulesHave (P : Table → Prop) (s : ServiceState) : Prop := P s.store.rules

namespace ServiceState.RulesHave

variable {P : Table → Prop} {s s' : ServiceState}

theorem congr (held : s.RulesHave P) (rules : s'.store.rules = s.store.rules) : s'.RulesHave P := by
  rwa [RulesHave, rules]

theorem asks {α : Type} {part : Service α} (asks : Asks part) : Keeps (RulesHave P) part :=
  fun s held => held.congr (congrArg Store.rules (asks s).store)

/-- The other tables may be written. -/
theorem writing {collection : Collection} (other : collection ≠ .rules) : KeptByWriting (RulesHave P) collection where
  asks := asks
  write s held := held.congr (Store.table_setTable_of_ne s.store _ other)

/-- No submission touches the catalog. -/
theorem keptBySubmitting : KeptBySubmitting (RulesHave P) :=
  .of_writing (writing (by decide)) (writing (by decide)) (writing (by decide))
    (.bind (asks .get) fun _ => .ite (fun _ held => held.congr rfl) .throw)

theorem keptByRouting : KeptByRouting (RulesHave P) := keptBySubmitting.routing

end ServiceState.RulesHave

/-! ### Documents of rules -/

/-- A state in which every stored document of the catalog is that of a rule. -/
def ServiceState.Cataloged (s : ServiceState) : Prop := ∀ document ∈ s.store.rules, document.IsRule

/-- Where no name is a path, giving a rule fields of sound rules leaves the document of a rule. -/
theorem Document.IsRule.assignAll {document : Document} (isRule : document.IsRule) {wanted updates : Fields}
    (offered : ∀ field ∈ updates, Rule.Offers field) :
    IsRule (Change.assignAll wanted updates document).document := by
  have plain : ∀ name ∈ Rule.fieldNames, Change.PlainName name := by decide +kernel
  rw [Change.assignAll_eq_setAll fun field member => plain _ (offered field member).name_mem]
  induction updates generalizing document with
  | nil => exact isRule
  | cons field rest ih =>
      obtain ⟨name, v⟩ := field
      obtain ⟨here, others⟩ := List.forall_mem_cons.1 offered
      rw [Change.setAll, Change.andThen, Change.set]
      cases fault : fieldFault? name v with
      | some refused => exact isRule
      | none =>
          have storable : v.storeFault? = none := by
            unfold fieldFault? at fault
            split at fault
            · cases fault
            · exact (Option.or_eq_none_iff.1 fault).2
          exact ih (isRule.put (here.fits storable)) others

namespace ServiceState.Cataloged

theorem insert_rule {rule : Rule} (sound : rule.Sound) : Keeps Cataloged (Service.insert .rules rule.document) :=
  fun _ cataloged => all_exec_insert .rules cataloged (Document.isRule_of_admitted sound)

theorem update_rule {query : Query} {wanted updates : Fields} (offered : ∀ field ∈ updates, Rule.Offers field) :
    Keeps Cataloged (Service.update .rules query (Change.assignAll wanted updates)) := by
  refine .bind (fun s cataloged => ?_) fun _ => .pure
  exact all_exec_change .rules cataloged fun _ isRule => Document.IsRule.assignAll isRule offered

theorem remove_rule {query : Query} : Keeps Cataloged (Service.remove .rules query) := by
  intro s cataloged
  rcases Bool.eq_false_or_eq_true s.down with down | up
  · rw [Service.remove, exec_bind, exec_reach_down down]
    exact cataloged
  · rw [Service.remove, exec_bind_ok (exec_reach_up up)]
    cases made : (s.store.table .rules).removeFirst? query with
    | error fault => exact cataloged
    | ok left =>
        cases left with
        | none => exact cataloged
        | some table => exact fun document member => cataloged document (Table.mem_of_removeFirst? made document member)

theorem keptByAuthors : KeptByAuthors Cataloged where
  asks := RulesHave.asks (P := fun table => ∀ document ∈ table, document.IsRule)
  insert := insert_rule
  update := update_rule
  remove := remove_rule

end ServiceState.Cataloged

end Countersign
