/-
Module: Countersign.Http.Handler
Purpose: What each part of the service does with a request.
Main exports: Http.Endpoint.handle
-/
import Countersign.Http.Form
import Countersign.Http.Route
import Countersign.Rule.FieldCatalog
import Countersign.Service.Connection

namespace Countersign.Http

open Service

/-- The version of the service. -/
def version : String := "1.0.0"

def ok (v : Value) : Response := .ofValue 200 v.plain

def created (v : Value) : Response := .ofValue 201 v.plain

/-- A rule with its conditions in words. -/
def ruleValue (rule : Rule) : Value := .record (rule.fields ++ [("summary", .text rule.describe)])

/-- The terms of leases that the settings give. -/
def leaseTerms (settings : Settings) : LeaseTerms :=
  { length := Double.ofRatio (settings.leaseSeconds < 0) settings.leaseSeconds.natAbs 1
    attempts := settings.leaseAttempts
    pause := settings.leasePause }

/-- A request that does not fit its form is not handled. -/
abbrev Handled := Except (List Fault) Response

/-- Handle a request with what a check read from it. -/
def handleWith {α : Type} (settings : Settings) (checked : Checked α)
    (handler : α → Service Response) : Service Handled := do
  match checked with
  | .refused faults => return .error faults
  | .accepted value =>
      Connection.ensure settings
      return .ok (← handler value)

/-- Handle a request of which nothing has to be read. -/
def handlePlain (settings : Settings) (handler : Service Response) : Service Handled := do
  Connection.ensure settings
  return .ok (← handler)

def aboutValue (settings : Settings) : Value :=
  .record [("name", .text "Trade Approval Engine"), ("version", .text version),
    ("docs", if settings.debug then .text "/api/docs" else .null)]

/-- How the service and its store are. -/
def healthValue (settings : Settings) : Service Value := do
  let store ← Connection.health settings
  let healthy := match store with
    | .record fields => (Fields.getD fields "status").same (.text "healthy")
    | _ => false
  return .record [("status", .text (if healthy then "healthy" else "degraded")),
    ("version", .text version), ("environment", .text settings.environment), ("mongo", store)]

def submitted (outcome : Routing.Outcome) : Service Response := do
  note .info .ticketApi s!"Submitted ticket {outcome.ticket.id} for approval"
    [("ticket_id", .text outcome.ticket.id), ("status", .text outcome.ticket.status.name)]
  return ok outcome.value

def actionValue (result : ActionResult) : Value :=
  .record [("approval_request", result.request.value), ("action", result.action.value),
    ("previous_status", .text result.previousStatus.name),
    ("status_changed", .bool result.statusChanged)]

/-- Handle a request for a part of the service, given the body that it carries. -/
def Endpoint.handle (settings : Settings) (call : Call) (body : Option Value) :
    Endpoint → Service Handled
  | .listRules => handleWith settings (enabledOnly call) fun enabledOnly => do
      let rules ← RuleStore.list enabledOnly
      return ok (.record [("items", .list (rules.map ruleValue)), ("total", .int rules.length)])
  | .createRule => handleWith settings (form newRule body) fun sent => do
      return created (ruleValue (← RuleCatalog.create sent))
  | .ruleFields => handlePlain settings (return ok FieldCatalog.value)
  | .seedRules => handlePlain settings do
      let rules ← RuleCatalog.seed
      return ok (.record [("created", .int rules.length), ("items", .list (rules.map ruleValue))])
  | .getRule id => handlePlain settings do return ok (ruleValue (← RuleStore.get (.text id)))
  | .updateRule id => handleWith settings (form ruleUpdates body) fun updates => do
      let rule ← RuleCatalog.update (.text id) (.record updates)
      note .info .ruleApi s!"Updated approval rule: {id}" [("rule_id", .text id)]
      return ok (ruleValue rule)
  | .toggleRule id => handlePlain settings do return ok (ruleValue (← RuleCatalog.toggle (.text id)))
  | .deleteRule id => handlePlain settings do
      RuleCatalog.remove (.text id)
      return ok (.record [("rule_id", .text id), ("deleted", .bool true)])
  | .createTicket => handleWith settings (form newTicket body) fun sent => do
      return created (← Routing.register sent).value
  | .getTicket id => handlePlain settings do return ok (← TicketStore.get (.text id)).value
  | .evaluateTicket id => handlePlain settings do return ok (← Routing.evaluate (.text id)).value
  | .submitTicket id => handlePlain settings do submitted (← Routing.submit (.text id))
  | .createRequest => handleWith settings (form newRequest body) fun sent => do
      return created (← Approval.openRequest sent).value
  | .listRequests => handleWith settings (listing call) fun wanted => do
      let skip := (wanted.page - 1) * wanted.pageSize
      let requests ← RequestStore.list wanted.filter skip wanted.pageSize
      return ok (.record [("items", .list (requests.map Request.value)),
        ("page", .int wanted.page), ("page_size", .int wanted.pageSize)])
  | .statistics => handlePlain settings do return ok (← Approval.statistics)
  | .getRequest id => handlePlain settings do return ok (← Approval.progress (.text id)).value
  | .requestStatus id => handlePlain settings do return ok (← Approval.progress (.text id)).summary
  | .requestActions id => handlePlain settings do
      return ok (.record [("items", .list ((← Approval.history (.text id)).map Action.value))])
  | .submitAction id => handleWith settings (form newAction body) fun sent => do
      return ok (actionValue
        (← Approval.submit (.text id) (.text sent.role) sent.decision (.ofText? sent.comment)
          (leaseTerms settings)))
  | .health => do return .ok (ok (← healthValue settings))
  | .about => return .ok (ok (aboutValue settings))

/-- Whether a part of the service reads the body of a request. -/
def Endpoint.readsBody : Endpoint → Bool
  | .createRule | .updateRule _ | .createTicket | .createRequest | .submitAction _ => true
  | _ => false

end Countersign.Http
