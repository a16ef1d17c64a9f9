import Countersign.Approval.Opening
import Countersign.Approval.Request
import Countersign.Approval.Status
import Countersign.Approval.Storage
import Countersign.Approval.Submission
import Countersign.Approval.Trail
import Countersign.Calendar.Date
import Countersign.Calendar.Field
import Countersign.Calendar.Literal
import Countersign.Calendar.Moment
import Countersign.Calendar.Reading
import Countersign.CommandLine
import Countersign.Condition.Basic
import Countersign.Condition.Evaluation
import Countersign.Http.Address
import Countersign.Http.Form
import Countersign.Http.Handler
import Countersign.Http.Message
import Countersign.Http.NameCode
import Countersign.Http.Reference
import Countersign.Http.Route
import Countersign.Http.Server
import Countersign.Http.ServerName
import Countersign.Journal
import Countersign.Json.Reader
import Countersign.Json.Writer
import Countersign.Main
import Countersign.Number.Double
import Countersign.Number.FieldNumeral
import Countersign.Number.Numeral
import Countersign.Number.Shortest
import Countersign.Number.Word
import Countersign.Problem.Kind
import Countersign.Problem.Refusal
import Countersign.Proofs.Calendar.Texts
import Countersign.Proofs.Catalog.Attribution
import Countersign.Proofs.Catalog.Authored
import Countersign.Proofs.Catalog.Drafts
import Countersign.Proofs.Catalog.Entries
import Countersign.Proofs.Catalog.Listing
import Countersign.Proofs.Catalog.Matching
import Countersign.Proofs.Catalog.Ordering
import Countersign.Proofs.Catalog.Overwriting
import Countersign.Proofs.Catalog.Reading
import Countersign.Proofs.Catalog.Refusing
import Countersign.Proofs.Catalog.Requirements
import Countersign.Proofs.Catalog.Seeding
import Countersign.Proofs.Catalog.Storing
import Countersign.Proofs.Catalog.Survival
import Countersign.Proofs.Commands.Aside
import Countersign.Proofs.Commands.Asking
import Countersign.Proofs.Commands.Authoring
import Countersign.Proofs.Commands.Catalog
import Countersign.Proofs.Commands.Changes
import Countersign.Proofs.Commands.Dates
import Countersign.Proofs.Commands.Failing
import Countersign.Proofs.Commands.InOrder
import Countersign.Proofs.Commands.Numbers
import Countersign.Proofs.Commands.Refusing
import Countersign.Proofs.Commands.Routing
import Countersign.Proofs.Commands.Submitting
import Countersign.Proofs.Condition.Grammar
import Countersign.Proofs.Condition.Negation
import Countersign.Proofs.Condition.Thresholds
import Countersign.Proofs.Decision.ActiveKeys
import Countersign.Proofs.Decision.ActiveRequests
import Countersign.Proofs.Decision.Alone
import Countersign.Proofs.Decision.Backing
import Countersign.Proofs.Decision.Bypassing
import Countersign.Proofs.Decision.Concurrent
import Countersign.Proofs.Decision.Drift
import Countersign.Proofs.Decision.Fencing
import Countersign.Proofs.Decision.Finality
import Countersign.Proofs.Decision.FirstDecision
import Countersign.Proofs.Decision.LeaseTokens
import Countersign.Proofs.Decision.LeaseWaits
import Countersign.Proofs.Decision.Openings
import Countersign.Proofs.Decision.Refusals
import Countersign.Proofs.Decision.Repairing
import Countersign.Proofs.Decision.Replay
import Countersign.Proofs.Decision.Retries
import Countersign.Proofs.Decision.Routes
import Countersign.Proofs.Decision.Serial
import Countersign.Proofs.Decision.Signatures
import Countersign.Proofs.Decision.Standing
import Countersign.Proofs.Decision.Tally
import Countersign.Proofs.Decision.TicketAgreement
import Countersign.Proofs.Decision.TrailOrder
import Countersign.Proofs.Decision.Turns
import Countersign.Proofs.Http.Correlation
import Countersign.Proofs.Http.Forms
import Countersign.Proofs.Http.Handling
import Countersign.Proofs.Http.Serving
import Countersign.Proofs.Ledger.Basic
import Countersign.Proofs.Ledger.Evolution
import Countersign.Proofs.Ledger.InStep
import Countersign.Proofs.Ledger.Keys
import Countersign.Proofs.Ledger.Leases
import Countersign.Proofs.Ledger.Links
import Countersign.Proofs.Ledger.Opening
import Countersign.Proofs.Ledger.Paging
import Countersign.Proofs.Ledger.Proposals
import Countersign.Proofs.Ledger.Reading
import Countersign.Proofs.Ledger.Recording
import Countersign.Proofs.Ledger.Requests
import Countersign.Proofs.Ledger.RuleNames
import Countersign.Proofs.Ledger.Submitting
import Countersign.Proofs.Ledger.Tickets
import Countersign.Proofs.Ledger.Trail
import Countersign.Proofs.Number.Rounding
import Countersign.Proofs.Schema.Reading
import Countersign.Proofs.Schema.Tickets
import Countersign.Proofs.Service.Calls
import Countersign.Proofs.Service.Endings
import Countersign.Proofs.Service.Execution
import Countersign.Proofs.Service.Ids
import Countersign.Proofs.Store.Documents
import Countersign.Proofs.Store.Entries
import Countersign.Proofs.Store.Tables
import Countersign.Proofs.Submission.Effects
import Countersign.Proofs.Submission.Endings
import Countersign.Proofs.Submission.Engagement
import Countersign.Proofs.Submission.Passages
import Countersign.Proofs.Submission.Phases
import Countersign.Proofs.Submission.Refusing
import Countersign.Proofs.Submission.Steps
import Countersign.Proofs.Ticket.Facts
import Countersign.Proofs.Ticket.Storing
import Countersign.Proofs.World.Basic
import Countersign.Proofs.World.Catalog
import Countersign.Proofs.World.Failing
import Countersign.Proofs.World.Invariant
import Countersign.Proofs.World.Listing
import Countersign.Proofs.World.Progress
import Countersign.Proofs.World.Requests
import Countersign.Proofs.World.Session
import Countersign.Proofs.World.Updating
import Countersign.Proofs.World.WellKept
import Countersign.Rule.Basic
import Countersign.Rule.Catalog
import Countersign.Rule.Draft
import Countersign.Rule.FieldCatalog
import Countersign.Rule.Requirements
import Countersign.Rule.Storage
import Countersign.Schema.Checked
import Countersign.Schema.Fault
import Countersign.Service.Application
import Countersign.Service.Basic
import Countersign.Service.Connection
import Countersign.Session.Run
import Countersign.Session.Step
import Countersign.Settings
import Countersign.Store.Basic
import Countersign.Store.Change
import Countersign.Store.Document
import Countersign.Store.Fault
import Countersign.Store.Filter
import Countersign.Store.Table
import Countersign.Store.Term
import Countersign.Store.Term.Arithmetic
import Countersign.Store.Term.Choice
import Countersign.Store.Term.Kinds
import Countersign.Store.Term.Lists
import Countersign.Store.Term.Node
import Countersign.Store.Term.Operation
import Countersign.Store.Term.Texts
import Countersign.Text.Blank
import Countersign.Text.CodePoint
import Countersign.Text.Digit
import Countersign.Text.LetterCase
import Countersign.Text.Pattern
import Countersign.Text.PatternReader
import Countersign.Text.Printable
import Countersign.Text.Punycode
import Countersign.Text.Quoted
import Countersign.Text.Split
import Countersign.Text.Utf8
import Countersign.Text.WordCode
import Countersign.Ticket.Basic
import Countersign.Ticket.Facts
import Countersign.Ticket.Routing
import Countersign.Ticket.Storage
import Countersign.Value.Basic
import Countersign.Value.Display
import Countersign.Value.Dump
import Countersign.Value.Order
import Countersign.Value.Template
