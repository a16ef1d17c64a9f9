/-
Module: Countersign.Http.Route
Purpose: Which part of the service a path and a method lead to.
Main exports: Http.Endpoint, Http.routes, Http.Target, Http.locate
-/
import Countersign.Http.Message
import Countersign.Text.Split

namespace Countersign.Http

/-- The parts of the service that a request may be for. -/
inductive Endpoint where
  | listRules
  | createRule
  | ruleFields
  | seedRules
  | getRule (id : String)
  | updateRule (id : String)
  | toggleRule (id : String)
  | deleteRule (id : String)
  | createTicket
  | getTicket (id : String)
  | evaluateTicket (id : String)
  | submitTicket (id : String)
  | createRequest
  | listRequests
  | statistics
  | getRequest (id : String)
  | requestStatus (id : String)
  | requestActions (id : String)
  | submitAction (id : String)
  | health
  | about
deriving DecidableEq, Repr

/-- Whether a part belongs to the interface proper, beside which the service only tells of itself. -/
def Endpoint.isInterface : Endpoint → Bool
  | health => false
  | about => false
  | _ => true

/-- One part of the path of a route. -/
inductive Segment where
  | name (s : String)
  | parameter
deriving DecidableEq, Repr

/-- A route: a method, a path, and what it leads to, given the parameter of the path. -/
structure Route where
  method : String
  path : List Segment
  endpoint : String → Endpoint

/-- A route below the root of the interface. -/
def under (method : String) (path : List Segment) (endpoint : String → Endpoint) : Route :=
  ⟨method, [.name "api", .name "v1"] ++ path, endpoint⟩

/-- The routes. The first that fits a request is taken. -/
def routes : List Route :=
  let rules := Segment.name "approval-rules"
  let tickets := Segment.name "tickets"
  let approvals := Segment.name "approvals"
  [ under "GET" [rules] fun _ => .listRules,
    under "POST" [rules] fun _ => .createRule,
    under "GET" [rules, .name "fields"] fun _ => .ruleFields,
    under "POST" [rules, .name "seed"] fun _ => .seedRules,
    under "GET" [rules, .parameter] .getRule,
    under "PUT" [rules, .parameter] .updateRule,
    under "POST" [rules, .parameter, .name "toggle"] .toggleRule,
    under "DELETE" [rules, .parameter] .deleteRule,
    under "POST" [tickets] fun _ => .createTicket,
    under "GET" [tickets, .parameter] .getTicket,
    under "POST" [tickets, .parameter, .name "evaluate"] .evaluateTicket,
    under "POST" [tickets, .parameter, .name "submit"] .submitTicket,
    under "POST" [approvals] fun _ => .createRequest,
    under "GET" [approvals] fun _ => .listRequests,
    under "GET" [approvals, .name "stats"] fun _ => .statistics,
    under "GET" [approvals, .parameter] .getRequest,
    under "GET" [approvals, .parameter, .name "status"] .requestStatus,
    under "GET" [approvals, .parameter, .name "actions"] .requestActions,
    under "POST" [approvals, .parameter, .name "actions"] .submitAction,
    ⟨"GET", [.name "health"], fun _ => .health⟩,
    ⟨"GET", [.name ""], fun _ => .about⟩ ]

/-- Whether a path fits the parts of a route, and the parameter in it if it does. A line may end behind
a name that ends the path. -/
def fit? (parameter : String) : List Segment → List String → Option String
  | [], [] => some parameter
  | [.name s], [part] => if s = part ∨ s ++ "\n" = part then some parameter else none
  | .name s :: segments, part :: parts => if s = part then fit? parameter segments parts else none
  | .parameter :: segments, part :: parts => if part.isEmpty then none else fit? part segments parts
  | _, _ => none

/-- The parts of a path, which begins with a slash. -/
def partsOf (path : String) : List String :=
  ((Text.pieces '/' path.toList).map String.ofList).drop 1

/-- The parameter of a route in a path that fits it. -/
def Route.fit? (route : Route) (path : String) : Option String :=
  Http.fit? "" route.path (partsOf path)

/-- Where a request leads: to a part of the service, to a path that has other methods only, to the same
path without slashes at its end, or nowhere. -/
inductive Target where
  | found (endpoint : Endpoint)
  | otherMethod (allowed : String)
  | elsewhere (path : String)
  | nowhere
deriving DecidableEq, Repr

/-- A path without slashes at its end. -/
def withoutSlashes (path : String) : String :=
  String.ofList (path.toList.reverse.dropWhile (· == '/')).reverse

def endsInSlash (path : String) : Bool := path.toList.getLast? == some '/'

/-- The same path without slashes at its end, or with one when it has none. -/
def otherPath (path : String) : String :=
  if endsInSlash path then withoutSlashes path else path ++ "/"

/-- Find out where a method and a path lead. -/
def locate (method path : String) : Target :=
  let fits (path : String) := routes.filter fun route => (route.fit? path).isSome
  match (fits path).find? (·.method == method) with
  | some route => .found (route.endpoint ((route.fit? path).getD ""))
  | none =>
      match fits path with
      | route :: _ => .otherMethod route.method
      | [] =>
          if path ≠ "/" ∧ !(fits (otherPath path)).isEmpty then .elsewhere (otherPath path)
          else .nowhere

end Countersign.Http
