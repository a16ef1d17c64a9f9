/-
Module: Countersign.Session.Step
Purpose: The steps of a session with the service, and what each answers.
Main exports: Session.StepFault, Session.Step, Session.Answer
-/
import Countersign.Http.Server
import Countersign.Service.Application
import Countersign.Calendar.Reading

namespace Countersign.Session

/-!
A session is a list of steps. Beside the commands of the service there are steps that write to the store
past the commands, steps that move the clock or take the store down, requests over HTTP, and steps that
contain others: a submission with what runs at its points, and a time in which the service is up.
-/

/-- Why a step cannot be taken, as its arguments alone show. -/
inductive StepFault where
  /-- A text stands for a date or a moment and is none. -/
  | calendar (fault : CalendarFault)
  /-- An argument is of the wrong kind, or is none of the step's. -/
  | wrongArgument
  /-- An argument is missing. -/
  | missingArgument
  /-- A request cannot be sent to its address. -/
  | address (fault : Http.AddressFault)
  /-- A text of a request has no form in the bytes that it is sent in. -/
  | notEncodable
  /-- A number of a request is not finite. -/
  | notFinite
deriving Repr

/-- A step of a session. Ids, roles, names and the like are values of any kind, as are the documents that
go past the commands. -/
inductive Step where
  | createRule (sent : RuleCatalog.NewRule)
  | updateRule (id updates : Value)
  | toggleRule (id : Value)
  | deleteRule (id : Value)
  | getRule (id : Value)
  | listRules (enabledOnly : Bool)
  | seedRules
  | fieldCatalog
  | storeRule (rule : Value)
  | storeRules (rules : List Value)
  | storeRuleFields (id updates : Value)
  | findRule (name : Value)
  | countRules
  | registerTicket (sent : Routing.NewTicket)
  | getTicket (id : Value)
  | evaluateTicket (id : Value)
  | submitTicket (id : Value)
  | storeTicketStatus (id status : Value)
  | openRequest (proposal : Approval.Proposal)
  | submitAction (id role decision comment : Value) (during : Option (List (Point × List Step)))
  | getDetail (id : Value)
  | getStatus (id : Value)
  | listActions (id : Value)
  | statistics
  | listRequests (status : Value) (filter : RequestStore.RequestFilter) (skip size : Value)
  | takeLease (id token length : Value)
  | giveUpLease (id token : Value)
  | commitStatus (id token status : Value) (releasing : Bool)
  | recordAction (id role decision sequence comment : Value)
  | appendAction (action : Value)
  | readTrail (id : Value)
  | insertDocument (collection : Collection) (document : Value)
  | changeDocument (collection : Collection) (wanted updates : Value)
  | removeDocument (collection : Collection) (wanted : Value)
  | dump (collection : Collection)
  | setOutage (down : Bool)
  | reconnect
  | health
  | advanceClock (micros : Value)
  | newIds (kinds : List Value)
  | seedFromShell
  | whileUp (seed : Bool) (steps : List Step)
  | http (call : Http.Call)
  | crash
  | wrong (fault : StepFault)
deriving Inhabited

/-- What a step answers. -/
inductive Answer where
  | plain (outcome : Except Failure Value)
  | submission (outcome : Except Failure ActionResult) (during : Option (List Answer))
  | several (answers : List Answer)
  | response (response : Http.Response)
  | wrong (fault : StepFault)

end Countersign.Session
