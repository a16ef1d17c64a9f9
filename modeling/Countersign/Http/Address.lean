/-
Module: Countersign.Http.Address
Purpose: Paths and queries of addresses: percent escapes and named values.
Main exports: Http.unescape, Http.requote, Http.escapeLocation, Http.escapePart, Http.readQuery
-/
import Countersign.Http.ServerName

namespace Countersign.Http

open Text

/-!
A percent sign and two hexadecimal digits stand for one byte; the bytes of a text are read as UTF-8.
-/

/-- The value of a digit to the base 16. -/
def hexCode? (code : Nat) : Option Nat :=
  if code < 128 then Json.hexValue? (Char.ofNat code) else none

def percent : Nat := 0x25

/-- The bytes of a text whose escapes are resolved. -/
def unescapedBytes : List Nat → List Nat
  | code :: rest@(a :: b :: after) =>
      if code = percent then
        match hexCode? a, hexCode? b with
        | some high, some low => (high * 16 + low) :: unescapedBytes after
        | _, _ => utf8BytesOf code ++ unescapedBytes rest
      else utf8BytesOf code ++ unescapedBytes rest
  | code :: rest => utf8BytesOf code ++ unescapedBytes rest
  | [] => []

/-- A text whose escapes are resolved. -/
def unescape (s : String) : String := decodeUtf8 (unescapedBytes (codes s))

/-- The characters that a path shows as they are. -/
def pathMarks : String := "-._~!$&'()*+,;=:/@%[]\\^|"

/-- The characters that a query shows as they are. -/
def queryMarks : String := pathMarks ++ "?\x60\x7b\x7d"

/-- The characters that an address shows as they are. -/
def locationMarks : String := "_.-~:/%#?=@[]!$&'()*+,;"

/-- The path of an address in which nothing can be taken for the beginning of a query. -/
def closedPath (path : String) : String :=
  String.join (path.toList.map fun c =>
    if c == '?' then "%3F" else if c == '#' then "%23" else String.singleton c)

/-- An address with all other characters escaped. -/
def escapeLocation (s : String) : String := escapeBut locationMarks s

/-- A part of a query with all characters escaped that may mean something else there. -/
def escapePart (s : String) : String :=
  String.join ((codes s).map fun code =>
    if isPlainCode "_.-~" code then String.singleton (Char.ofNat code)
    else if code = ' '.toNat then "+"
    else escaped code)

/-- One part of a query: what stands before the first equals sign, and what follows it. -/
def readPair (part : List Char) : String × String :=
  let plain (cs : List Char) : String :=
    unescape (String.ofList (cs.map fun c => if c = '+' then ' ' else c))
  (plain (part.takeWhile (· != '=')), plain ((part.dropWhile (· != '=')).drop 1))

/-- The named values of a query. -/
def readQuery (s : String) : List (String × String) :=
  ((s.splitOn "&").filter (!·.isEmpty)).map fun part => readPair part.toList

end Countersign.Http
