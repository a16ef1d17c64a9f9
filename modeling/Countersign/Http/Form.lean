/-
Module: Countersign.Http.Form
Purpose: What the bodies and queries of requests must look like.
Main exports: Http.readBody, Http.newRule, Http.ruleUpdates, Http.newTicket, Http.newRequest,
  Http.newAction, Http.listing
-/
import Countersign.Http.Message
import Countersign.Rule.Catalog
import Countersign.Ticket.Routing
import Countersign.Approval.Submission

namespace Countersign.Http

open Checked

/-! ### Bodies -/

/-- Whether the type of a body is that of JSON. A body without a type is taken as JSON. -/
def isJsonType : Option String → Bool
  | none => true
  | some type =>
      let main := Call.smallName (Text.strip ((type.splitOn ";").headD ""))
      match main.splitOn "/" with
      | ["application", kind] => kind == "json" || kind.endsWith "+json"
      | _ => false

/-- A mark that may stand in front of a text to tell its encoding. -/
def byteOrderMark : Char := '\ufeff'

/-- A text without the mark in front of it. -/
def withoutMark (s : String) : String :=
  match s.toList with
  | c :: rest => if c = byteOrderMark then String.ofList rest else s
  | [] => s

/-- Why a body cannot be read. -/
inductive BodyFault where
  /-- Its text is no JSON. -/
  | json (fault : Json.Fault)
  /-- It is no text, or its JSON is beyond what is read. -/
  | unreadable
deriving DecidableEq, Repr

/-- Values in a body are not nested more deeply than this. -/
def maxBodyDepth : Nat := 950

/-- Whether a problem with JSON is that a limit was passed. -/
def isLimit : Json.Problem → Bool
  | .longNumeral => true
  | .deep => true
  | _ => false

/-- Read the text of a body as JSON. Its bytes may have been another text in an encoding of its own. -/
def readJson (s : String) : Except BodyFault Value :=
  let bytes := Text.utf8Bytes s
  match (Text.Encoding.guess (bytes.take (if bytes.length = 2 then 2 else 4))).decode? bytes with
  | none => .error .unreadable
  | some text =>
      match Json.readWithin maxBodyDepth (withoutMark text) with
      | .ok v => .ok v
      | .error fault => .error (if isLimit fault.problem then .unreadable else .json fault)

/-- The value of a body, nothing when there is no body, or why it cannot be read. -/
def readBody (call : Call) : Except BodyFault (Option Value) :=
  let isJson := isJsonType (call.header? "content-type")
  match call.payload with
  | .empty => .ok none
  | .json v => .ok (some (if isJson then v else .text (Json.write Json.plainCompact v)))
  | .text s =>
      if s.isEmpty then .ok none
      else if isJson then some <$> readJson s
      else .ok (some (.text s))

/-- Check a body, which must be a record. -/
def form {α : Type} (check : Fields → Checked α) (body : Option Value) : Checked α :=
  match body with
  | none => refused [⟨.missing, [.field "body"], .null⟩]
  | some (.record fields) => (check fields).under (.field "body")
  | some v => refused [⟨.notAttributes, [.field "body"], v⟩]

def maxDescription : Nat := 2000

def maxTicketId : Nat := 100

def maxComment : Nat := 4000

/-- Keep what a reader reads as a value. -/
def asValue {α : Type} (reader : Reader α) (f : α → Value) : Reader Value := fun v => f <$> reader v

def name : Reader Value := asValue (Reader.boundedText 1 (some Rule.maxName)) .text

def description : Reader Value :=
  asValue (Reader.nullable (Reader.boundedText 0 (some maxDescription))) .ofText?

def priority : Reader Value := asValue Reader.int .int

def enabled : Reader Value := asValue Reader.bool .bool

def combinator : Reader Value :=
  asValue (Reader.choice Combinator.choices) fun combinator => .text combinator.name

def conditions : Reader Value :=
  asValue (Reader.items Reader.record) fun found => .list (found.map .record)

def approvers : Reader Value := asValue Reader.texts .ofTexts

/-- A new rule. Its conditions are looked at by the catalog. -/
def newRule (fields : Fields) : Checked RuleCatalog.NewRule :=
  (fun name description priority enabled combinator conditions approvers =>
      { name, description, priority, enabled, combinator, conditions, approvers })
    <$> fields.required "name" name
    <*> fields.optional "description" .null description
    <*> fields.optional "priority" (.int Rule.defaultPriority) priority
    <*> fields.optional "is_enabled" (.bool true) enabled
    <*> fields.optional "combinator" (.text Combinator.all.name) combinator
    <*> fields.optional "conditions" (.list []) conditions
    <*> fields.optional "required_approvers" (.list []) approvers

/-- The fields of a list of readers that are given. -/
def givenFields (fields : Fields) : List (String × Reader Value) → Checked Fields
  | [] => accepted []
  | (name, reader) :: rest =>
      match fields.get? name with
      | none => givenFields fields rest
      | some v =>
          (fun value others => (name, value) :: others)
            <$> (reader v).under (.field name) <*> givenFields fields rest

/-- Null is kept as it is. -/
def orNull (reader : Reader Value) : Reader Value
  | .null => accepted .null
  | v => reader v

/-- The changes to a rule: only the fields that are sent. -/
def ruleUpdates (fields : Fields) : Checked Fields :=
  givenFields fields [("name", orNull name), ("description", description),
    ("priority", orNull priority), ("is_enabled", orNull enabled),
    ("combinator", orNull combinator), ("conditions", orNull conditions),
    ("required_approvers", orNull approvers)]

def newTicket (fields : Fields) : Checked Routing.NewTicket :=
  (fun id contents company => { id, fields := contents, company })
    <$> fields.optional "ticket_id" .null
      (asValue (Reader.nullable (Reader.boundedText 1 (some maxTicketId))) .ofText?)
    <*> fields.optional "fields" (.record []) (asValue Reader.record .record)
    <*> fields.optional "company" .null (orNull (asValue Reader.record .record))

def newRequest (fields : Fields) : Checked Approval.Proposal :=
  (fun ticketId approvers ruleTriggered roleToRules =>
      { ticketId, approvers, ruleTriggered, roleToRules })
    <$> fields.required "ticket_id" (asValue (Reader.boundedText 1 none) .text)
    <*> fields.required "required_approvers" (asValue (Reader.someItems Reader.text) .ofTexts)
    <*> fields.required "rule_triggered" (asValue (Reader.boundedText 1 none) .text)
    <*> fields.optional "role_to_rules" .null
      (orNull (asValue (Reader.entries Reader.texts) Requirements.namesValue))

/-- An action of a role. -/
structure NewAction where
  role : String
  decision : Decision
  comment : Option String
deriving DecidableEq, Repr

def newAction (fields : Fields) : Checked NewAction :=
  NewAction.mk
    <$> fields.required "approver_role" (Reader.boundedText 1 none)
    <*> fields.required "action" (Reader.choice Decision.choices)
    <*> fields.optional "comment" none
      (Reader.nullable (Reader.boundedText 0 (some maxComment)))

/-! ### Queries -/

/-- Read a parameter of the query that has a default. -/
def parameter {α : Type} (call : Call) (name : String) (default : α) (reader : Reader α) :
    Checked α :=
  match call.parameter? name with
  | some s => ((reader (.text s)).under (.field name)).under (.field "query")
  | none => accepted default

def enabledOnly (call : Call) : Checked Bool := parameter call "enabled_only" false Reader.bool

/-- Which requests to list. -/
structure Listing where
  filter : RequestStore.RequestFilter
  page : Int
  pageSize : Int
deriving Repr

def defaultPageSize : Int := 20

def maxPageSize : Int := 100

def listing (call : Call) : Checked Listing :=
  (fun status role rule ticketId page pageSize =>
      ⟨⟨status, .text role, .text rule, .text ticketId⟩, page, pageSize⟩)
    <$> parameter call "status" none (fun v => some <$> Reader.choice ApprovalStatus.choices v)
    <*> parameter call "role" "" Reader.text
    <*> parameter call "rule" "" Reader.text
    <*> parameter call "ticket_id" "" Reader.text
    <*> parameter call "page" 1 (Reader.boundedInt 1 none)
    <*> parameter call "page_size" defaultPageSize (Reader.boundedInt 1 (some maxPageSize))

end Countersign.Http
