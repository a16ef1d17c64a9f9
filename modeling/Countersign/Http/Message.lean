/-
Module: Countersign.Http.Message
Purpose: Requests to the service over HTTP and its responses.
Main exports: Http.Payload, Http.Call, Http.Call.header?, Http.Call.ofAddress, Http.Call.ofLine,
  Http.Content, Http.Response, Http.Response.line
-/
import Countersign.Http.Reference
import Countersign.Json.Writer

namespace Countersign.Http

/-- What a request carries. -/
inductive Payload where
  | empty
  | json (value : Value)
  | text (s : String)
deriving Repr

/-- A request. The query is there as it was sent and as the named values in it. The origin is the server that
the request came to. -/
structure Call where
  method : String
  origin : Origin
  path : String
  rawQuery : String := ""
  query : List (String × String) := []
  headers : List (String × String) := []
  payload : Payload := .empty
deriving Repr

namespace Call

/-- A name of a header in small letters. -/
def smallName (name : String) : String := String.ofList (name.toList.map Char.toLower)

/-- The value of a header, whose name may be in any case. -/
def header? (call : Call) (name : String) : Option String :=
  (call.headers.find? fun (key, _) => smallName key == smallName name).map (·.2)

/-- The value of a header that is there and not empty. -/
def filledHeader? (call : Call) (name : String) : Option String :=
  (call.header? name).filter (!·.isEmpty)

/-- The characters that the name of a server is made of, beside letters and digits. -/
def serverMarks : List Char := "-._~!$&'()*+,;=".toList

/-- Whether a text is the name of a server, in which bytes may be escaped. -/
def isServerName : List Char → Bool
  | '%' :: a :: b :: rest =>
      (Json.hexValue? a).isSome && (Json.hexValue? b).isSome && isServerName rest
  | c :: rest => (c.isAlphanum || serverMarks.contains c) && isServerName rest
  | [] => true

/-- The greatest port. -/
def lastPort : Nat := 65535

/-- Whether a text is nothing, or a colon and the digits of a port. -/
def isPort : List Char → Bool
  | [] => true
  | ':' :: digits =>
      !digits.isEmpty && digits.all Char.isDigit && (String.ofList digits).toNat?.any (· ≤ lastPort)
  | _ => false

/-- Whether a text is the name of a server, with or without a port. -/
def isServer (s : String) : Bool :=
  match s.toList with
  | '[' :: rest =>
      match rest.dropWhile (· != ']') with
      | ']' :: port => isLongAddress (String.ofList (rest.takeWhile (· != ']'))) && isPort port
      | _ => false
  | cs =>
      let name := cs.takeWhile (· != ':')
      !name.isEmpty && isServerName name && isPort (cs.dropWhile (· != ':'))

/-- The address of the server by the name under which the caller knows it. -/
def server (call : Call) : String :=
  let name := (call.header? "Host").getD call.origin.name
  call.origin.scheme ++ "://" ++ if isServer name then name else call.origin.shortName

/-- The name of a method is written in capitals. -/
def methodName (method : String) : String := String.ofList (method.toList.map Char.toUpper)

/-- The schemes of requests, and those of connections that stay open. -/
def schemes : List (String × Option AddressFault) :=
  [("http", none), ("https", none), ("ws", some .openScheme), ("wss", some .openScheme)]

/-- A request to an address, if it can be sent. Escapes in the path are resolved twice: on the way and on
arrival. -/
def ofAddress (method : String) (address : Address) (headers : List (String × String))
    (payload : Payload) : Except AddressFault Call :=
  match schemes.lookup address.origin.scheme with
  | none => .error .unknownScheme
  | some (some fault) => .error fault
  | some none =>
      .ok
        { method := methodName method
          origin := address.origin
          path := unescape (unescape address.path)
          rawQuery := address.query
          query := readQuery address.query
          headers
          payload }

/-- The request with other named values in its query. -/
def withQuery (call : Call) (query : List (String × String)) : Call :=
  { call with
    rawQuery := "&".intercalate (query.map fun (name, v) => escapePart name ++ "=" ++ escapePart v)
    query }

/-- Split a text at its first space. -/
def splitSpace (s : String) : String × String :=
  let cs := s.toList
  (String.ofList (cs.takeWhile (· != ' ')), String.ofList ((cs.dropWhile (· != ' ')).drop 1))

/-- The server as it knows itself. -/
def ownOrigin : Origin := ⟨"http", "localhost", none⟩

/-- A request on one line: a method, a reference and a body, a space between them. -/
def ofLine (line : String) : Except AddressFault Call := do
  let (method, rest) := splitSpace line
  let (reference, body) := splitSpace rest
  ofAddress method (← Reference.resolve ownOrigin reference) []
    (if body.isEmpty then .empty else .text body)

/-- The last value of a name in the query. -/
def parameter? (call : Call) (name : String) : Option String := call.query.reverse.lookup name

end Call

/-- What a response carries. -/
inductive Content where
  | json (value : Value)
  | text (s : String)
deriving Repr

structure Response where
  status : Nat
  content : Content
  headers : List (String × String) := []
deriving Repr

namespace Response

def ofValue (status : Nat) (v : Value) : Response := { status, content := .json v }

def withHeaders (response : Response) (headers : List (String × String)) : Response :=
  { response with headers := response.headers ++ headers }

/-- A response on one line. -/
def line (response : Response) : String :=
  let content := match response.content with
    | .json v => v
    | .text s => .text s
  let headers := response.headers.map fun (name, v) => (name, Value.text v)
  Json.write Json.spaced (.record [("status", .int response.status),
    ("headers", .record headers), ("body", content)])

end Response

end Countersign.Http
