/-
Module: Countersign.Proofs.World.Catalog
Purpose: What events do to the catalog of a world.
Main exports: Session.Step.isAuthoring, World.catalog, World.take_rules, World.Runs.cataloged
-/
import Countersign.Proofs.Commands.Catalog
import Countersign.Proofs.Catalog.Matching
import Countersign.Proofs.World.Basic

namespace Countersign

open Service

/-!
Of all that may happen to a world only the commands of the rules' authors write to the catalog.
-/

namespace Session

/-- Whether a step is a command of the rules' authors that may write. -/
def Step.isAuthoring : Step → Bool
  | .createRule _ => true
  | .updateRule _ _ => true
  | .toggleRule _ => true
  | .deleteRule _ => true
  | .seedRules => true
  | _ => false

/-- Every other command leaves the catalog alone. -/
theorem Step.value_rulesHave {P : Table → Prop} {step : Step} (command : step.isCommand = true)
    (other : step.isAuthoring = false) (environment : Environment) :
    Keeps (ServiceState.RulesHave P) (step.value environment) := by
  have routing : KeptByRouting (ServiceState.RulesHave P) := ServiceState.RulesHave.keptByRouting
  cases step with
  | createRule sent => cases other
  | updateRule id updates => cases other
  | toggleRule id => cases other
  | deleteRule id => cases other
  | seedRules => cases other
  | registerTicket sent => exact .bind (Routing.register_keeps routing sent) fun _ => .pure
  | submitTicket id => exact .bind (Routing.submit_keeps routing id) fun _ => .pure
  | openRequest proposal => exact .bind (Approval.openRequest_keeps routing proposal) fun _ => .pure
  | _ => exact routing.asks (Step.asks command rfl environment)

/-- And what the rules' authors keep is kept by their commands. -/
theorem Step.value_keptByAuthors {kept : ServiceState → Prop} (authors : KeptByAuthors kept) {step : Step}
    (authoring : step.isAuthoring = true) (environment : Environment) : Keeps kept (step.value environment) := by
  cases step with
  | createRule sent => exact .bind (RuleCatalog.create_keeps authors sent) fun _ => .pure
  | updateRule id updates => exact .bind (RuleCatalog.update_keeps authors id updates) fun _ => .pure
  | toggleRule id => exact .bind (RuleCatalog.toggle_keeps authors id) fun _ => .pure
  | deleteRule id => exact .bind (RuleStore.remove_keeps authors id) fun _ => .pure
  | seedRules => exact .bind (RuleCatalog.seed_keeps authors) fun _ => .pure
  | _ => cases authoring

end Session

namespace World

variable {environment : Session.Environment} {order : Order} {w w' : World} {event : Event}

/-- The rules that the store keeps. -/
def catalog (w : World) : List Rule := w.state.store.rules.filterMap Rule.ofDocument?

/-- An event leaves the catalog alone, or is a command of the rules' authors. -/
theorem take_rules (taken : w.take environment event = some w') :
    w'.state.store.rules = w.state.store.rules ∨
    ∃ step, event = .command step ∧ step.isAuthoring = true ∧
      w' = { w with state := (exec (step.value environment) w.state).2 } := by
  cases becomes_of_take taken with
  | @command step command =>
      cases authoring : step.isAuthoring with
      | true => exact Or.inr ⟨step, rfl, authoring, rfl⟩
      | false =>
          exact Or.inl (Session.Step.value_rulesHave (P := (· = w.state.store.rules)) command authoring
            environment w.state rfl)
  | shift around => exact Or.inl rfl
  | submit => exact Or.inl rfl
  | @advance index call phase s here ran =>
      have kept := Phase.step_keeps (ServiceState.RulesHave.keptBySubmitting (P := (· = w.state.store.rules)))
        call.submission call.phase w.state rfl
      rw [ran] at kept
      exact Or.inl kept
  | cut here point => exact Or.inl rfl

/-- In every world that is reached the catalog has documents of rules alone. -/
theorem Runs.cataloged (reached : Runs environment order start w) : w.state.Cataloged := by
  induction reached with
  | stay => exact fun _ member => by cases member
  | next before event allowed taken ih =>
      rcases take_rules taken with same | ⟨step, rfl, authoring, rfl⟩
      · exact fun document member => ih document (same ▸ member)
      · exact Session.Step.value_keptByAuthors ServiceState.Cataloged.keptByAuthors authoring environment _ ih

end World

end Countersign
