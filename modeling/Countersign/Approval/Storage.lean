/-
Module: Countersign.Approval.Storage
Purpose: The requests for approval in the store, and the leases on them.
Main exports: RequestStore.add, RequestStore.get, RequestStore.claim?, RequestStore.commit?,
  RequestStore.release, RequestFilter, RequestStore.list, RequestStore.countByStatus
-/
import Countersign.Service.Basic
import Countersign.Approval.Request
import Countersign.Text.LetterCase

namespace Countersign.RequestStore

open Service

/-!
Beside the fields of a request its document has the active key and the lease: who holds it and until
when. A lease is free when it has no end or when its end is not after the present. Only the holder of a
lease may change the status.
-/

def withId (id : Value) : Query := Query.field "approval_request_id" id

/-- The document of a request on which a token holds the lease. -/
def heldBy (id token : Value) : Query := Query.both (withId id) (Query.field "locked_by" token)

/-- Whether nobody holds a lease on a document at a time. -/
def isFree (time : Double) (document : Document) : Bool :=
  document.meets "lock_expires_at" .null
    || Filter.someOf (Filter.stands [.lt, .eq] (.float time))
      (Fields.get? document "lock_expires_at") (.float time)

/-- The document of a request on which nobody holds a lease. -/
def freeAt (id : Value) (time : Double) : Query :=
  Query.both (withId id) fun document => .ok (isFree time document)

def details (id : Value) (ticketId : String) (status : ApprovalStatus) : Fields :=
  [("approval_request_id", id), ("ticket_id", .text ticketId), ("status", .text status.name)]

/-- Add a request. -/
def add (request : Request) : Service Request := do
  if ← insert .requests request.document then
    note .info .requestStore s!"Created approval request: {request.id}"
      (details (.text request.id) request.ticketId request.status)
    return request
  else refuse (.requestActive request.ticketId)

def get (id : Value) : Service Request := do
  match ← findOne .requests (withId id) with
  | some document => accept (Request.check document)
  | none => refuse (.requestMissing id)

/-! ### Leases -/

/-- The change that puts a lease on a document. -/
def lease (token : Value) (until_ : Double) : Change :=
  Change.setAll [("locked_by", token), ("lock_expires_at", .float until_)]

/-- The fields of a document without a lease. -/
def leaseFree : Fields := [("locked_by", .null), ("lock_expires_at", .null)]

/-- Take the lease on a request for some seconds, if it is free. -/
def claim? (id token : Value) (length : Double) : Service (Option Request) := do
  let time ← seconds
  match ← update .requests (freeAt id time) (lease token (time.add length)) with
  | some document => return some (← accept (Request.check document))
  | none => return none

/-- Make sure that a request is there. -/
def ensureKnown (id : Value) : Service Unit := do
  match ← findOne .requests (withId id) with
  | some _ => return
  | none => refuse (.requestMissing id)

/-- Give up the lease on a request, and tell whether that changed anything. -/
def release (id token : Value) : Service Bool := do
  match ← change .requests (heldBy id token) (Change.setAll leaseFree) with
  | some (before, after) => return !Value.same (.record before) (.record after)
  | none => return false

/-! ### The status -/

/-- What no two stored requests share, for a request of an id that a caller gave. -/
def activeKey (ticketId : String) (id : Value) (status : ApprovalStatus) : Value :=
  if status.isTerminal then id else .text ticketId

/-- The change that gives a document another status, one version later. -/
def moveTo (ticketId : String) (id : Value) (status : ApprovalStatus) (time : Moment)
    (releasing : Bool) : Change :=
  (Change.setAll
    ([("status", .text status.name), ("updated_at", .moment time),
        ("active_key", activeKey ticketId id status)]
      ++ (if status.isTerminal then [("decided_at", .moment time)] else [])
      ++ (if releasing then leaseFree else []))).andThen
  (Change.increment "version")

/-- Change the status of a request on which a token holds the lease. The ticket of the request and the
time of the change are those that were read before. -/
def write? (id token : Value) (ticketId : String) (status : ApprovalStatus) (time : Moment)
    (releasing : Bool) : Service (Option Request) := do
  match ← update .requests (heldBy id token) (moveTo ticketId id status time releasing) with
  | none => return none
  | some document =>
      note .info .requestStore s!"Approval request {id.display} is now {status.name}"
        (details id ticketId status)
      return some (← accept (Request.check document))

/-- Read a request and change its status, if a token holds the lease on it. -/
def commit? (id token : Value) (status : ApprovalStatus) (releasing : Bool) :
    Service (Option Request) := do
  let time ← now
  let request ← get id
  write? id token request.ticketId status time releasing

/-! ### Queries -/

/-- Which requests are asked for. A filter that does not count as given lets all pass. -/
structure RequestFilter where
  status : Option ApprovalStatus := none
  role : Value := .null
  rule : Value := .null
  ticketId : Value := .null
deriving Repr

/-- Whether a text, or a text in a list, contains another in any case. -/
def mentions (part : String) : Value → Bool
  | .text s => Text.containsCaseless s part
  | .list items => items.any fun v =>
      match v with
      | .text s => Text.containsCaseless s part
      | _ => false
  | _ => false

/-- The query for a field that must have a value, if the value counts as given. -/
def given (name : String) (wanted : Value) : Query :=
  if wanted.truthy then Query.field name wanted else Query.all

/-- The query for rules whose names mention a text, if one is given. -/
def mentioning (part : Value) : Except Failure Query :=
  match part with
  | .text s =>
      .ok fun document => .ok (s.isEmpty || mentions s (Fields.getD document "rule_triggered"))
  | part => if part.truthy then .error .notUsable else .ok Query.all

/-- The query that a filter stands for. -/
def RequestFilter.query (filter : RequestFilter) : Except Failure Query := do
  let rule ← mentioning filter.rule
  let status := match filter.status with
    | some status => Query.field "status" (.text status.name)
    | none => Query.all
  return Query.both status (Query.both (given "required_approvers" filter.role)
    (Query.both rule (given "ticket_id" filter.ticketId)))

/-- One page of a list: what follows a number of items, or as many last ones as a negative number tells.
A size of 0 is no bound, and its sign does not count. -/
def page {α : Type} (skip size : Int) (items : List α) : List α :=
  let rest := if 0 ≤ skip then items.drop skip.toNat else items.drop (items.length - skip.natAbs)
  if size = 0 then rest else rest.take size.natAbs

/-- The requests among documents. -/
def readAll : List Document → Service (List Request)
  | [] => return []
  | document :: rest => do
      let request ← accept (Request.check document)
      return request :: (← readAll rest)

/-- A page of the requests that are asked for, newest first. -/
def list (filter : RequestFilter) (skip size : Int) : Service (List Request) := do
  match filter.query with
  | .error failure => throw failure
  | .ok query => readAll (page skip size (← select .requests query [⟨"created_at", true⟩]))

/-- How many requests stand in each status. -/
def countIn : List ApprovalStatus → Service (List (ApprovalStatus × Nat))
  | [] => return []
  | status :: rest => do
      let size ← count .requests (Query.field "status" (.text status.name))
      return (status, size) :: (← countIn rest)

def countByStatus : Service (List (ApprovalStatus × Nat)) := countIn ApprovalStatus.all

end Countersign.RequestStore
