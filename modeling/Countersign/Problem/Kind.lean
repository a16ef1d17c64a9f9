/-
Module: Countersign.Problem.Kind
Purpose: The kinds of errors that the service answers with, how they specialise one another, and the
  report of one.
Main exports: ErrorKind, ErrorKind.ancestry, ErrorReport, ErrorReport.body
-/
import Countersign.Value.Basic

namespace Countersign

/-- The kinds of errors. -/
inductive ErrorKind where
  | domain
  | validation
  | ruleValidation
  | notFound
  | ruleNotFound
  | requestNotFound
  | ticketNotFound
  | invalidRole
  | conflict
  | concurrency
  | invalidState
  | alreadyTerminal
  | duplicateApproval
  | alreadyExists
  | activeRequestExists
deriving DecidableEq, Repr

namespace ErrorKind

def all : List ErrorKind :=
  [domain, validation, ruleValidation, notFound, ruleNotFound, requestNotFound, ticketNotFound,
    invalidRole, conflict, concurrency, invalidState, alreadyTerminal, duplicateApproval,
    alreadyExists, activeRequestExists]

/-- The kind that a kind is a special case of. -/
def parent? : ErrorKind → Option ErrorKind
  | domain => none
  | validation => some domain
  | ruleValidation => some validation
  | notFound => some domain
  | ruleNotFound => some notFound
  | requestNotFound => some notFound
  | ticketNotFound => some notFound
  | invalidRole => some domain
  | conflict => some domain
  | concurrency => some conflict
  | invalidState => some conflict
  | alreadyTerminal => some invalidState
  | duplicateApproval => some conflict
  | alreadyExists => some conflict
  | activeRequestExists => some alreadyExists

/-- The number of kinds above a kind. -/
def depth : ErrorKind → Nat
  | domain => 0
  | validation | notFound | invalidRole | conflict => 1
  | ruleValidation | ruleNotFound | requestNotFound | ticketNotFound => 2
  | concurrency | invalidState | duplicateApproval | alreadyExists => 2
  | alreadyTerminal | activeRequestExists => 3

theorem depth_lt_of_parent? {kind above : ErrorKind} (isParent : kind.parent? = some above) :
    above.depth < kind.depth := by
  cases kind <;> simp [parent?] at isParent <;> subst isParent <;> decide

/-- A kind and the kinds that it is a special case of, nearest first. -/
def ancestry (kind : ErrorKind) : List ErrorKind :=
  match isParent : kind.parent? with
  | none => [kind]
  | some above =>
      have := depth_lt_of_parent? isParent
      kind :: above.ancestry
termination_by kind.depth

def code : ErrorKind → String
  | domain => "DOMAIN_ERROR"
  | validation => "VALIDATION_ERROR"
  | ruleValidation => "RULE_VALIDATION_ERROR"
  | notFound => "NOT_FOUND"
  | ruleNotFound => "RULE_NOT_FOUND"
  | requestNotFound => "APPROVAL_REQUEST_NOT_FOUND"
  | ticketNotFound => "TICKET_NOT_FOUND"
  | invalidRole => "INVALID_ROLE"
  | conflict => "CONFLICT"
  | concurrency => "CONCURRENCY_CONFLICT"
  | invalidState => "INVALID_STATE"
  | alreadyTerminal => "ALREADY_TERMINAL"
  | duplicateApproval => "DUPLICATE_APPROVAL"
  | alreadyExists => "ALREADY_EXISTS"
  | activeRequestExists => "ACTIVE_REQUEST_EXISTS"

/-- The HTTP status of a kind. -/
def status : ErrorKind → Nat
  | domain | validation | ruleValidation | invalidRole => 400
  | notFound | ruleNotFound | requestNotFound | ticketNotFound => 404
  | conflict | concurrency | invalidState | alreadyTerminal | duplicateApproval | alreadyExists
  | activeRequestExists => 409

end ErrorKind

/-- An error as it is told to a caller. What it says, and the code that it may have of its own, are values
of any kind. -/
structure ErrorReport where
  kind : ErrorKind
  message : Value
  details : Value := .null
  customCode : Value := .null
deriving Repr

namespace ErrorReport

/-- The code of a report: its own when it has one that counts as given, else the one of its kind. -/
def code (report : ErrorReport) : Value :=
  if report.customCode.truthy then report.customCode else .text report.kind.code

/-- The details of a report, an empty record when none count as given. -/
def shownDetails (report : ErrorReport) : Value :=
  if report.details.truthy then report.details else .record []

def body (report : ErrorReport) : Value :=
  .record [("error", .record [("code", report.code), ("message", report.message),
    ("details", report.shownDetails)])]

end ErrorReport

end Countersign
