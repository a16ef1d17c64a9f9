/-
Module: Countersign.Http.Reference
Purpose: References as a caller writes them, and the addresses that they lead to.
Main exports: Http.Origin, Http.Reference, Http.Reference.ofText, Http.AddressFault, Http.Address,
  Http.Reference.resolve
-/
import Countersign.Http.Address
import Countersign.Number.Numeral

namespace Countersign.Http

open Text

/-!
A reference has a scheme, a server, a path and a query, each of which may be missing. Only with the
scheme and the server it is whole; any other is taken from the root of the server that it is sent to,
wherever it may point. A path loses its parts `.`, and with each `..` the part in front of it.
-/

/-- A server: its scheme, its name, and its port unless it is the one of the scheme. -/
structure Origin where
  scheme : String
  host : String
  port : Option Int
deriving DecidableEq, Repr

namespace Origin

/-- The ports of schemes. -/
def ports : List (String × Int) :=
  [("ftp", 21), ("http", 80), ("https", 443), ("ws", 80), ("wss", 443)]

/-- The name of a server, between brackets when it is an address of groups. -/
def bracketed (origin : Origin) : String :=
  if origin.host.toList.contains ':' then "[" ++ origin.host ++ "]" else origin.host

/-- A server with its port. -/
def name (origin : Origin) : String :=
  match origin.port with
  | some port => s!"{origin.bracketed}:{port}"
  | none => origin.bracketed

/-- A server with its port, when it is not the one of the scheme. -/
def shortName (origin : Origin) : String :=
  if origin.port == ports.lookup origin.scheme then origin.bracketed else origin.name

end Origin

/-- A reference, split into its parts. -/
structure Reference where
  scheme : String
  user : String
  host : String
  port : String
  path : String
  query : Option String
  fragment : String
deriving DecidableEq, Repr

/-- Why a reference leads to no address that a request can be sent to. -/
inductive AddressFault where
  | notValid
  /-- A part has no form in bytes. -/
  | notEncodable
  /-- Requests are not sent by the scheme. -/
  | unknownScheme
  /-- The scheme is one of connections that stay open. -/
  | openScheme
deriving DecidableEq, Repr

/-- A path on a server, and a query. Both are in ASCII. -/
structure Address where
  origin : Origin
  path : String
  query : String
deriving DecidableEq, Repr

namespace Reference

def isSchemeChar (c : Char) : Bool := c.isAlphanum || c == '+' || c == '.' || c == '-'

/-- The scheme in front of a colon, which may be empty, and what follows. -/
def splitScheme (cs : List Char) : List Char × List Char :=
  let scheme := cs.takeWhile isSchemeChar
  match cs.dropWhile isSchemeChar with
  | ':' :: rest => if (scheme.head?.map Char.isAlpha).getD true then (scheme, rest) else ([], cs)
  | _ => ([], cs)

/-- The server behind two slashes, and what follows. -/
def splitServer : List Char → List Char × List Char
  | '/' :: '/' :: rest =>
      let stops := fun c => c == '/' || c == '?' || c == '#'
      (rest.takeWhile (!stops ·), rest.dropWhile (!stops ·))
  | cs => ([], cs)

/-- What stands in front of the last of a character, and what follows it. -/
def splitLast (c : Char) (cs : List Char) : List Char × List Char :=
  let turned := cs.reverse
  if cs.contains c then
    (((turned.dropWhile (· != c)).drop 1).reverse, (turned.takeWhile (· != c)).reverse)
  else ([], cs)

/-- The name of a server and its port. A name between brackets goes up to the last of them. -/
def splitPort (cs : List Char) : List Char × List Char :=
  let (host, rest) :=
    if cs.head? == some '[' && cs.contains ']' then
      let (inner, rest) := splitLast ']' cs
      (inner ++ [']'], rest)
    else (cs.takeWhile (· != ':'), cs.dropWhile (· != ':'))
  (host, if rest.head? == some ':' then rest.drop 1 else rest)

/-- Split a reference. -/
def ofText (s : String) : Reference :=
  let (scheme, rest) := splitScheme s.toList
  let (server, rest) := splitServer rest
  let (user, server) := splitLast '@' server
  let (host, port) := splitPort server
  let fragment := (rest.dropWhile (· != '#')).drop 1
  let rest := rest.takeWhile (· != '#')
  { scheme := String.ofList scheme
    user := String.ofList user
    host := String.ofList host
    port := String.ofList port
    path := String.ofList (rest.takeWhile (· != '?'))
    query := match rest.dropWhile (· != '?') with
      | [] => none
      | _ :: query => some (String.ofList query)
    fragment := String.ofList fragment }

/-- The parts of a path without those that are dots. `kept` are the parts so far, the last first. -/
def dropDots (kept : List String) : List String → List String
  | [] => kept.reverse
  | part :: rest =>
      if part = "." then dropDots kept rest
      else if part = ".." then
        dropDots (if kept = [] ∨ kept = [""] then kept else kept.drop 1) rest
      else dropDots (part :: kept) rest

/-- A path without the parts that are dots. -/
def withoutDots (path : String) : String := "/".intercalate (dropDots [] (path.splitOn "/"))

/-- The path of a reference that is not empty. -/
def rootedPath (path : String) : String := if path.isEmpty then "/" else path

/-- No reference is longer than this, and no part of one that is taken from the root. -/
def maxLength : Nat := 65536

/-- Whether a character may stand in a reference. -/
def mayStand (c : Char) : Bool := !(c.toNat < 0x20 || c.toNat = 0x7f)

/-- The port that a text is, nothing when it is the port of a scheme as it is written. -/
def readPort (scheme port : String) : Except AddressFault (Option Int) :=
  if port.isEmpty then .ok none
  else match Numeral.readInteger? port with
    | some n => .ok (if Origin.ports.lookup scheme == some n then none else some n)
    | none => .error .notValid

/-- A part of a reference with all characters escaped but some. -/
def encode (marks : String) (part : String) : Except AddressFault String :=
  if hasHalf part then .error .notEncodable else .ok (escapeBut marks part)

/-- What of a reference decides where it leads: the server, the path and the query. -/
structure Target where
  origin : Origin
  path : String
  query : Option String

/-- Whether a path can be told from a server and from a scheme. -/
def isPlainPath (path : String) : Bool :=
  !("//".toList.isPrefixOf path.toList) && path.toList.head? != some ':'

/-- Look at the parts of a reference, in order. -/
def target (reference : Reference) : Except AddressFault Target := do
  if hasHalf reference.user then throw .notEncodable
  let host ← match readServerName? reference.host with
    | some host => pure host
    | none => throw .notValid
  let port ← readPort reference.scheme reference.port
  let scheme := lower reference.scheme
  let hasServer := !reference.user.isEmpty || !host.isEmpty || port.isSome
  let isBare := scheme.isEmpty && !hasServer
  if isBare && !isPlainPath reference.path then throw .notValid
  let path ← encode pathMarks (if isBare then reference.path else withoutDots reference.path)
  let query ← reference.query.mapM (encode queryMarks)
  if hasHalf reference.fragment || hasHalf host then throw .notEncodable
  return ⟨⟨scheme, host, port⟩, path, query⟩

/-- The address of a target that is no whole one: below the root of a server. The slashes in front of it do not
count. -/
def belowRoot (server : Origin) (target : Target) : Except AddressFault Address :=
  let query := match target.query with
    | some query => "?" ++ query
    | none => ""
  let below := (rootedPath target.path ++ query).toList.dropWhile (· == '/')
  let path := withoutDots ("/" ++ String.ofList (below.takeWhile (· != '?')))
  let query := String.ofList ((below.dropWhile (· != '?')).drop 1)
  if maxLength < path.length ∨ maxLength < query.length then .error .notValid
  else .ok ⟨server, rootedPath path, query⟩

/-- The address that a reference leads to from a server. -/
def resolve (server : Origin) (s : String) : Except AddressFault Address := do
  if maxLength < length s || !s.toList.all mayStand then throw .notValid
  let target ← (ofText s).target
  if target.origin.scheme.isEmpty || target.origin.host.isEmpty then belowRoot server target
  else return ⟨target.origin, rootedPath target.path, target.query.getD ""⟩

end Reference

end Countersign.Http
