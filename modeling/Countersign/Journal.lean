/-
Module: Countersign.Journal
Purpose: Entries of the service's journal and the line that is written for each.
Main exports: Level, Source, Entry, Entry.value, Entry.reaches, Entry.line, DraftFault,
  EntryDraft.entry
-/
import Countersign.Json.Writer
import Countersign.Value.Template

namespace Countersign

/-- How much an entry matters. -/
inductive Level where
  | unset
  | debug
  | info
  | warning
  | error
  | critical
deriving DecidableEq, Repr

namespace Level

def name : Level → String
  | unset => "NOTSET"
  | debug => "DEBUG"
  | info => "INFO"
  | warning => "WARNING"
  | error => "ERROR"
  | critical => "CRITICAL"

def rank : Level → Nat
  | unset => 0
  | debug => 10
  | info => 20
  | warning => 30
  | error => 40
  | critical => 50

def all : List Level := [unset, debug, info, warning, error, critical]

/-- Names under which a level is known beside its own. -/
def otherNames : List (String × Level) := [("WARN", warning), ("FATAL", critical)]

def ofName? (s : String) : Option Level :=
  match all.find? (·.name == s) with
  | some level => some level
  | none => otherNames.lookup s

end Level

/-- The parts of the service that write to the journal. -/
inductive Source where
  | application
  | connection
  | ruleStore
  | ticketStore
  | requestStore
  | trailStore
  | ruleCatalog
  | routing
  | workflow
  | evaluation
  | matching
  | facts
  | ruleApi
  | ticketApi
  | errorApi
deriving DecidableEq, Repr

/-- The name under which a part writes. -/
def Source.name : Source → String
  | application => "trade_approvals.main"
  | connection => "trade_approvals.repositories.mongo_client"
  | ruleStore => "trade_approvals.repositories.rule_repo"
  | ticketStore => "trade_approvals.repositories.ticket_repo"
  | requestStore => "trade_approvals.repositories.approval_repo"
  | trailStore => "trade_approvals.repositories.audit_repo"
  | ruleCatalog => "trade_approvals.services.rule_catalog_service"
  | routing => "trade_approvals.services.ticket_approval_service"
  | workflow => "trade_approvals.engine.approval_workflow"
  | evaluation => "trade_approvals.engine.condition_evaluator"
  | matching => "trade_approvals.engine.rule_matcher"
  | facts => "trade_approvals.engine.fact_builder"
  | ruleApi => "trade_approvals.api.routes.rules"
  | ticketApi => "trade_approvals.api.routes.tickets"
  | errorApi => "trade_approvals.api.middleware.error_handlers"

/-- An entry of the journal. -/
structure Entry where
  time : Moment
  level : Value
  source : Value
  message : String
  correlation : Value
  details : Fields
  exception : Value := .null
deriving Repr

namespace Entry

/-- The details that a line shows, in order. -/
def shownDetails : List String :=
  ["ticket_id", "approval_request_id", "approver_role", "action", "status", "rule_id", "error_code"]

/-- The correlation id, when there is one that is not empty. -/
def correlationField (correlation : Value) : Fields :=
  if correlation.truthy then [("correlation_id", correlation)] else []

/-- The entry as a record. -/
def fields (entry : Entry) : Fields :=
  [("timestamp", .text entry.time.stampText), ("level", entry.level),
    ("logger", entry.source), ("message", .text entry.message)]
    ++ correlationField entry.correlation
    ++ shownDetails.filterMap (fun name =>
      (entry.details.get? name).map fun v => (name, v.withDatesAs Moment.spacedText))
    ++ if entry.exception.truthy then [("exception", entry.exception)] else []

def value (entry : Entry) : Value := .record entry.fields

/-- Whether an entry matters at least as much as a level; one of no known level matters least. -/
def reaches (level : Level) (entry : Entry) : Bool :=
  level.rank ≤ ((entry.level.text?.bind Level.ofName?).map Level.rank).getD 0

/-- The line of an entry. -/
def line (entry : Entry) : String := Json.write Json.spaced entry.value

end Entry

/-- An entry as a caller asks for it: a template with its values in a row. The details may name the
parts of the entry too, and then take their places. -/
structure EntryDraft where
  level : Level
  source : Value
  template : Value
  values : List Value
  correlation : Value
  details : Fields
deriving Repr

/-- Why an entry cannot be made of a draft. -/
inductive DraftFault where
  | template (fault : Template.TemplateFault)
  /-- A detail has the name of what makes the message. -/
  | messageReplaced
  /-- What is given as an exception has no parts. -/
  | exceptionPartless
  /-- It has fewer than three parts. -/
  | exceptionShort
  /-- Its parts have names, not places. -/
  | exceptionNamed
  /-- Its second part is no exception, or its third no trace of one. -/
  | exceptionWrong
deriving DecidableEq, Repr

namespace EntryDraft

/-- The message of a draft. Values among the details are one value, not values in a row. -/
def message (draft : EntryDraft) : Except DraftFault String :=
  let template := ((draft.details.get? "msg").getD draft.template).display
  if draft.details.has "getMessage" then .error .messageReplaced
  else match draft.details.get? "args" with
    | none => (Template.fill template draft.values).mapError .template
    | some v =>
        if v.truthy then (Template.fillWith template (.ofValue v)).mapError .template
        else .ok template

/-- What a line tells of an exception whose parts are a value's: its kind, itself and its trace. Values
hold no exceptions, so all that can be told is that there is none. -/
def exceptionText : Value → Except DraftFault String
  | .list (_ :: exception :: trace :: _) =>
      match exception, trace with
      | .null, .null => .ok "NoneType: None"
      | _, _ => .error .exceptionWrong
  | .list _ => .error .exceptionShort
  | .text s => .error (if Text.length s < 3 then .exceptionShort else .exceptionWrong)
  | .record _ => .error .exceptionNamed
  | _ => .error .exceptionPartless

/-- The exception that the details tell of, null when they tell of none. -/
def exception (draft : EntryDraft) : Except DraftFault Value :=
  let given := draft.details.getD "exc_info"
  if given.truthy then Value.text <$> exceptionText given else .ok .null

/-- The entry that a draft asks for. -/
def entry (draft : EntryDraft) (time : Moment) : Except DraftFault Entry := do
  let message ← draft.message
  let exception ← draft.exception
  return { time, message, exception
           level := (draft.details.get? "levelname").getD (.text draft.level.name)
           source := (draft.details.get? "name").getD draft.source
           correlation := draft.correlation
           details := draft.details }

end EntryDraft

end Countersign
