/-
Module: Countersign.Http.Server
Purpose: From a request to its response: correlation, other origins, routes, and errors in words.
Main exports: Http.respond, Http.respondTo
-/
import Countersign.Http.Handler

namespace Countersign.Http

open Service

/-!
Every request has a correlation id, its own or a new one, which its response repeats. A request to the
interface proper that brings none gets a second new id for the journal once its body could be read. A
response that holds a number that is not finite, or a text that has no form in bytes, cannot be written
and counts as an unexpected error.
-/

def correlationHeader : String := "X-Correlation-Id"

/-- The id that a request brings, or a new one. -/
def correlationOf (call : Call) : Service String :=
  match call.filledHeader? correlationHeader with
  | some id => return id
  | none => newCorrelationId

def setCorrelation (id : Option String) : Service Unit := modify fun s => { s with correlation := id }

/-! ### Errors in words -/

def detail (v : Value) : Value := .record [("detail", v)]

def errorValue (code message : String) (details : Fields) : Value :=
  .record [("error", .record [("code", .text code), ("message", .text message),
    ("details", .record details)])]

/-- Answer a request that does not fit its form. -/
def answerInvalid (call : Call) (faults : List Fault) : Service Response := do
  note .warning .errorApi
    s!"Validation error: {faults.length} error(s), path={call.path}, method={call.method}"
    [("error_code", .text ErrorKind.validation.code)]
  return .ofValue 400 (errorValue ErrorKind.validation.code "Request validation failed"
    [("errors", .list (faults.map Fault.fullReport))])

/-- Answer a request whose body is no JSON. -/
def answerUnreadable (call : Call) : BodyFault → Service Response
  | .unreadable => return .ofValue 400 (detail (.text "There was an error parsing the body"))
  | .json fault =>
      answerInvalid call
        [⟨.json fault.problem.message, [.field "body", .item fault.position], .record []⟩]

/-- Answer a request that the store failed. -/
def answerStorage (failure : Failure) : Service Response := do
  note .error .errorApi s!"Storage error: {failure.storageMessage}"
    [("error_code", .text "STORAGE_ERROR")] true
  return .ofValue 503 (errorValue "STORAGE_ERROR"
    "The approval store is unavailable, please retry" [("retryable", .bool true)])

/-- Answer a request that failed for no reason that callers know. -/
def answerUnexpected (correlation : String) : Service Response := do
  setCorrelation (some correlation)
  note .error .errorApi "Unexpected error: the request could not be answered" [] true
  return .ofValue 500 (errorValue "INTERNAL_ERROR" "An unexpected error occurred"
    [("hint", .text "Check server logs for details")])

/-- Answer a request that failed, unless nothing is known of the reason. -/
def answerFailure? : Failure → Service (Option Response)
  | .refused refusal =>
      return some (.ofValue refusal.kind.status (detail refusal.report.body))
  | failure => do
      if failure.isStorage then return some (← answerStorage failure) else return none

mutual

/-- Whether a value can be written: its doubles are finite, and its texts have a form in bytes. -/
def isWritable : Value → Bool
  | .float x => x.isFinite
  | .text s => !Text.hasHalf s
  | .list items => areWritable items
  | .record fields => fieldsAreWritable fields
  | _ => true

def areWritable : List Value → Bool
  | [] => true
  | v :: rest => isWritable v && areWritable rest

def fieldsAreWritable : List (String × Value) → Bool
  | [] => true
  | (name, v) :: rest => !Text.hasHalf name && isWritable v && fieldsAreWritable rest

end

/-- Whether a response can be written. -/
def Response.isWritable (response : Response) : Bool :=
  match response.content with
  | .json v => Http.isWritable v
  | .text _ => true

/-! ### Other origins -/

def originHeader : String := "Origin"

def allowOrigin : String × String := ("access-control-allow-origin", "*")

/-- What a response to a request from another origin adds. -/
def originHeaders (call : Call) : List (String × String) :=
  match call.header? originHeader with
  | some _ => [allowOrigin, ("access-control-expose-headers", correlationHeader)]
  | none => []

/-- The methods that other origins may use. -/
def allowedMethods : List String :=
  ["DELETE", "GET", "HEAD", "OPTIONS", "PATCH", "POST", "PUT", "QUERY"]

/-- The method that a request asks leave for, when it does. -/
def methodAskedFor? (call : Call) : Option String :=
  if call.method = "OPTIONS" ∧ (call.header? originHeader).isSome then
    call.header? "Access-Control-Request-Method"
  else none

def privateNetworkHeader : String := "Access-Control-Request-Private-Network"

/-- What another origin asks for and may not have: a method, or the way into a private network. -/
def disallowed (call : Call) (method : String) : List String :=
  (if allowedMethods.contains method then [] else ["method"])
    ++ (if (call.header? privateNetworkHeader).isSome then ["private-network"] else [])

/-- Whether another origin may use a method. -/
def answerLeave (call : Call) (method : String) : Response :=
  let headers :=
    [allowOrigin, ("access-control-allow-methods", ", ".intercalate allowedMethods)]
  match disallowed call method with
  | [] => { status := 200, content := .text "OK", headers }
  | parts =>
      { status := 400, content := .text ("Disallowed CORS " ++ ", ".intercalate parts), headers }

/-! ### Responses -/

/-- Handle a request for a part of the service. -/
def dispatch (settings : Settings) (call : Call) (endpoint : Endpoint) : Service Response := do
  match if endpoint.readsBody then readBody call else .ok none with
  | .error fault => answerUnreadable call fault
  | .ok body =>
      if endpoint.isInterface then setCorrelation (some (← correlationOf call))
      match ← endpoint.handle settings call body with
      | .ok response => return response
      | .error faults => answerInvalid call faults

/-- The response to a request for a part of the service, nothing when it failed for an unknown reason or
cannot be written. -/
def answerEndpoint? (settings : Settings) (call : Call) (endpoint : Endpoint) :
    Service (Option Response) := do
  let response ←
    match ← attempt (dispatch settings call endpoint) with
    | .error failure => answerFailure? failure
    | .ok response => pure (some response)
  return response.filter Response.isWritable

/-- The response to a request by where it leads. -/
def answer? (settings : Settings) (call : Call) : Service (Option Response) := do
  match locate call.method call.path with
  | .nowhere => return some (.ofValue 404 (detail (.text "Not Found")))
  | .otherMethod allowed =>
      return some ((Response.ofValue 405 (detail (.text "Method Not Allowed"))).withHeaders
        [("allow", allowed)])
  | .elsewhere path =>
      let query := if call.rawQuery.isEmpty then "" else "?" ++ call.rawQuery
      return some
        { status := 307, content := .text ""
          headers := [("location", escapeLocation (call.server ++ closedPath path ++ query))] }
  | .found endpoint => answerEndpoint? settings call endpoint

/-- A response to a request that asks for headers alone has no content. -/
def withoutContent (call : Call) (response : Response) : Response :=
  if call.method = "HEAD" then { response with content := .text "" } else response

/-- Answer a request. -/
def respond (settings : Settings) (call : Call) : Service Response := do
  let before := (← get).correlation
  let correlation ← correlationOf call
  setCorrelation (some correlation)
  let response ←
    match methodAskedFor? call with
    | some method => pure (answerLeave call method)
    | none =>
        match ← answer? settings call with
        | some response => pure (response.withHeaders (originHeaders call))
        | none => answerUnexpected correlation
  setCorrelation before
  return (withoutContent call response).withHeaders [("x-correlation-id", correlation)]

/-- Answer a request that came in, or tell that what came in is none. -/
def respondTo (call : Except AddressFault Call) (settings : Settings) : Service Response :=
  match call with
  | .ok call => respond settings call
  | .error _ => return .ofValue 400 (detail (.text "Bad Request"))

end Countersign.Http
