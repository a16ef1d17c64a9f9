/-
Module: Countersign.Session.Run
Purpose: Running the steps of a session one after the other.
Main exports: Session.Environment, Session.Step.run, Session.Turn, Session.run
-/
import Countersign.Session.Step

namespace Countersign.Session

open Service

/-- What all steps of a session share. -/
structure Environment where
  settings : Settings
  terms : LeaseTerms

/-- The decision that a value names. -/
def decisionOf (v : Value) : Service Decision :=
  match v.text?.bind Decision.ofName? with
  | some decision => return decision
  | none => throw (.notDecision v)

/-- The status of requests that a value names. -/
def approvalStatusOf (v : Value) : Service ApprovalStatus :=
  match v.text?.bind ApprovalStatus.ofName? with
  | some status => return status
  | none => throw (.notApprovalStatus v)

/-- The status of tickets that a value names. -/
def ticketStatusOf (v : Value) : Service TicketStatus :=
  match v.text?.bind TicketStatus.ofName? with
  | some status => return status
  | none => throw (.notTicketStatus v)

/-- The rule that a value describes in full. -/
def ruleOf (v : Value) : Service Rule := accept (Reader.model "ApprovalRule" Rule.check v)

/-- The rules that values describe in full. -/
def rulesOf : List Value → Service (List Rule)
  | [] => return []
  | v :: rest => do
      let rule ← ruleOf v
      return rule :: (← rulesOf rest)

/-- Nothing to tell. -/
def silent (part : Service Unit) : Service Value := do
  part
  return .null

def optionValue {α : Type} (f : α → Value) : Option α → Value
  | some found => f found
  | none => .null

/-- A new id of a kind that a value names; a value that does not count as given names no kind. -/
def newIdOf (kind : Value) : Service String :=
  if kind.same (.text "COR") then newCorrelationId
  else if !Approval.isKey kind then throw .notUsable
  else newId (if kind.truthy then kind.display else "")

def takeIds : List Value → Service (List String)
  | [] => return []
  | kind :: rest => do
      let id ← newIdOf kind
      return id :: (← takeIds rest)

/-- The number of seconds that a value is. -/
def secondsOf : Value → Service Double
  | .int n =>
      match Double.ofInt n with
      | some x => return x
      | none => throw .beyondCalendar
  | .float x => return x
  | .bool b => return Double.ofRatio false (Value.ofBool b).toNat 1
  | _ => throw .notUsable

/-- The number of microseconds that a value is. -/
def microsOf : Value → Service Int
  | .int n => return n
  | .bool b => return Value.ofBool b
  | .float x =>
      match x.scaledNearest 1 with
      | some n => return n
      | none => throw .beyondCalendar
  | _ => throw .notUsable

/-- The number of items to pass over that a value is, none when it does not count as given. -/
def skipOf (v : Value) : Service Int :=
  match v with
  | .int n => return n
  | .bool b => return Value.ofBool b
  | v => if v.truthy then throw .notUsable else return 0

/-- The number of items to list that a value is. -/
def sizeOf : Value → Service Int
  | .int n => return n
  | .bool b => return Value.ofBool b
  | .float x => if x.isZero then return 0 else throw .notUsable
  | _ => throw .notUsable

/-- The fields of a record. -/
def fieldsOf : Value → Service Fields
  | .record fields => return fields
  | _ => throw .notUsable

/-- Add a document as it is. -/
def addDocument (collection : Collection) (document : Value) : Service Unit := do
  if !(← insert collection (← fieldsOf document)) then throw (.store .keyTaken)

/-- Change parts of the first document that meets a filter. -/
def changeFirst (collection : Collection) (wanted updates : Value) : Service Unit := do
  let wanted ← fieldsOf wanted
  let updates ← fieldsOf updates
  let _ ← update collection (Filter.query (.record wanted))
    (Change.assignAll (Value.storedFields wanted) updates)

/-- Remove the first document that meets a filter. -/
def removeFirst (collection : Collection) (wanted : Value) : Service Bool := do
  remove collection (Filter.query (.record (← fieldsOf wanted)))

/-- All documents of a table, without their identities. -/
def documentsOf (collection : Collection) : Service Value := do
  let documents := (← get).store.table collection
  return .list (documents.map fun document => .record (Fields.erase document Document.identity))

/-- The value that a step without other steps in it answers. -/
def Step.value (environment : Environment) : Step → Service Value
  | .createRule sent => return (← RuleCatalog.create sent).value.plain
  | .updateRule id updates => return (← RuleCatalog.update id updates).value.plain
  | .toggleRule id => return (← RuleCatalog.toggle id).value.plain
  | .deleteRule id => silent (RuleCatalog.remove id)
  | .getRule id => return (← RuleStore.get id).value.plain
  | .listRules enabledOnly =>
      return Value.plain (.list ((← RuleStore.list enabledOnly).map Rule.value))
  | .seedRules => return Value.plain (.list ((← RuleCatalog.seed).map Rule.value))
  | .fieldCatalog => return FieldCatalog.value
  | .storeRule v => do return (← RuleStore.add (← ruleOf v)).value.plain
  | .storeRules vs => do
      return Value.plain (.list ((← RuleStore.addAll (← rulesOf vs)).map Rule.value))
  | .storeRuleFields id updates => do
      return (← RuleStore.update id (← fieldsOf updates)).value.plain
  | .findRule name =>
      return optionValue (fun rule => rule.value.plain) (← RuleStore.findByName? name)
  | .countRules => return .int (← RuleStore.count)
  | .registerTicket sent => return (← Routing.register sent).value.plain
  | .getTicket id => return (← TicketStore.get id).value.plain
  | .evaluateTicket id => return (← Routing.evaluate id).value.plain
  | .submitTicket id => return (← Routing.submit id).value.plain
  | .storeTicketStatus id status => do
      let status ← ticketStatusOf status
      return (← TicketStore.setStatus id status).value.plain
  | .openRequest proposal => return (← Approval.openRequest proposal).value.plain
  | .getDetail id => return (← Approval.progress id).value.plain
  | .getStatus id => return (← Approval.progress id).summary
  | .listActions id => return Value.plain (.list ((← Approval.history id).map Action.value))
  | .statistics => Approval.statistics
  | .listRequests status filter skip size => do
      let status ← if status.truthy then some <$> approvalStatusOf status else pure none
      let requests ← RequestStore.list { filter with status } (← skipOf skip) (← sizeOf size)
      return Value.plain (.list (requests.map Request.value))
  | .takeLease id token length => do
      match ← RequestStore.claim? id token (← secondsOf length) with
      | some request => return request.value.plain
      | none => silent (RequestStore.ensureKnown id)
  | .giveUpLease id token => return .bool (← RequestStore.release id token)
  | .commitStatus id token status releasing => do
      let status ← approvalStatusOf status
      return optionValue (fun request => request.value.plain)
        (← RequestStore.commit? id token status releasing)
  | .recordAction id role decision sequence comment => do
      let decision ← decisionOf decision
      return (← Trail.record id role decision sequence comment).value.plain
  | .appendAction v => do
      let action ← accept (Reader.model "ApprovalAction" Action.check v)
      return (← Trail.append action).value.plain
  | .readTrail id => return Value.plain (.list ((← Trail.listFor id).map Action.value))
  | .insertDocument collection document => silent (addDocument collection document)
  | .changeDocument collection wanted updates =>
      silent (changeFirst collection wanted updates)
  | .removeDocument collection wanted =>
      return .int (Value.ofBool (← removeFirst collection wanted))
  | .dump collection => documentsOf collection
  | .setOutage down => silent (modify fun s => { s with down })
  | .reconnect => silent (Application.connect environment.settings)
  | .health => Connection.health environment.settings
  | .advanceClock micros => silent do waitWithin (← microsOf micros)
  | .newIds kinds => return .ofTexts (← takeIds kinds)
  | .seedFromShell => do
      let lines ← Application.seedFromShell environment.settings
      Connection.ensure environment.settings
      return .ofTexts (lines ++ [""])
  | .crash => throw .connectionLost
  | .submitAction .. => return .null
  | .whileUp .. => return .null
  | .http .. => return .null
  | .wrong _ => return .null

/-- Submit an action with hooks at its points. -/
def submitAction (environment : Environment) (id role decision comment : Value)
    (hooks : Hooks Answer) :
    Service (Except Failure ActionResult × List Answer) := do
  match ← attempt (decisionOf decision) with
  | .error failure => return (.error failure, [])
  | .ok decision => Approval.submitWith id role decision comment environment.terms hooks

mutual

/-- Run one step. -/
def Step.run (environment : Environment) : Step → Service Answer
  | .submitAction id role decision comment during => do
      let (outcome, told) ← submitAction environment id role decision comment
        (hooksOf? environment during)
      return .submission outcome (if during.isSome then some told else none)
  | .whileUp seed steps => do
      let settings := { environment.settings with seedRules := seed }
      Application.start settings
      let answers ← runAll environment steps
      Application.stop
      match ← attempt (Connection.ensure settings) with
      | .ok _ => return .several answers
      | .error failure => return .plain (.error failure)
  | .wrong fault => return .wrong fault
  | .http call => return .response (← Http.respond environment.settings call)
  | step => return .plain (← attempt (step.value environment))

/-- Run steps one after the other. -/
def runAll (environment : Environment) : List Step → Service (List Answer)
  | [] => return []
  | step :: rest => do
      let answer ← step.run environment
      return answer :: (← runAll environment rest)

/-- Run steps until one breaks the connection, and tell whether one did. -/
def runUntilCrash (environment : Environment) : List Step → Service (List Answer × Bool)
  | [] => return ([], false)
  | .crash :: _ => return ([], true)
  | step :: rest => do
      let answer ← step.run environment
      let (answers, broken) ← runUntilCrash environment rest
      return (answer :: answers, broken)

/-- The hooks that run steps at points. -/
def hooksOf (environment : Environment) : List (Point × List Step) → Hooks Answer
  | [] => []
  | (point, steps) :: rest => (point, runUntilCrash environment steps) :: hooksOf environment rest

def hooksOf? (environment : Environment) : Option (List (Point × List Step)) → Hooks Answer
  | none => []
  | some during => hooksOf environment during

end

/-- What one step of a session answers and writes to the journal, the earliest entry first. -/
structure Turn where
  answer : Answer
  entries : List Entry

/-- Run one step and take what it wrote to the journal. -/
def turn (environment : Environment) (step : Step) : Service Turn := do
  modify fun s => { s with journal := [] }
  let answer ← step.run environment
  return { answer, entries := (← get).journal.reverse }

/-- How far the clock moves between two steps. -/
def tick : Int := Moment.microsPerSecond

/-- Run the steps of a session, the clock moving before each. -/
def turns (environment : Environment) : List Step → Service (List Turn)
  | [] => return []
  | step :: rest => do
      waitWithin tick
      let first ← turn environment step
      return first :: (← turns environment rest)

/-- When sessions begin. -/
def beginning : Int := (Date.mk 2026 1 1).toDays * Moment.microsPerDay + 34200 * tick

/-- Run a session on an empty store. The clock stands at the beginning when the first step runs. The
session fails as a whole when the clock leaves the calendar between two steps. -/
def run (environment : Environment) (steps : List Step) : Except Failure (List Turn) :=
  ((turns environment steps).run { clock := beginning - tick }).1

end Countersign.Session
