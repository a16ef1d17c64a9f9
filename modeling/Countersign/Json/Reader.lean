/-
Module: Countersign.Json.Reader
Purpose: Reading a value from JSON text, with the first fault and its position.
Main exports: Json.Problem, Json.Fault, Json.readWithin, Json.read
-/
import Countersign.Value.Basic
import Countersign.Number.Numeral
import Countersign.Text.CodePoint

namespace Countersign.Json

open Text Numeral

/-!
A numeral without a fraction and an exponent is an integer, any other a double; `NaN`, `Infinity` and
`-Infinity` are read as doubles. A name that comes twice in a record keeps its first place and its last
value. Half of a surrogate pair is kept. The recursion is bounded by the number of characters, each of
which is read once.
-/

/-- What is wrong where reading stopped. -/
inductive Problem where
  | value
  | name
  | colon
  | comma
  | extra
  | unterminated
  | control
  | escape
  | unicodeEscape
  | longNumeral
  | deep
deriving DecidableEq, Repr

def Problem.message : Problem → String
  | value => "Expecting value"
  | name => "Expecting property name enclosed in double quotes"
  | colon => "Expecting ':' delimiter"
  | comma => "Expecting ',' delimiter"
  | extra => "Extra data"
  | unterminated => "Unterminated string starting at"
  | control => "Invalid control character at"
  | escape => "Invalid \\escape"
  | unicodeEscape => "Invalid \\uXXXX escape"
  | longNumeral => "Exceeds the limit for integer conversion"
  | deep => "Exceeds the limit of nesting"

/-- A problem and the number of code points before it. -/
structure Fault where
  problem : Problem
  position : Nat
deriving DecidableEq, Repr

/-- What was read and what follows it, or a problem and the text from it on. -/
abbrev Reading (α : Type) := Except (Problem × List Char) (α × List Char)

def isGap (c : Char) : Bool := c == ' ' || c == '\t' || c == '\n' || c == '\r'

def skipGap (cs : List Char) : List Char := cs.dropWhile isGap

/-- The value of a hexadecimal digit. -/
def hexValue? (c : Char) : Option Nat :=
  if '0' ≤ c ∧ c ≤ '9' then some (c.toNat - '0'.toNat)
  else if 'a' ≤ c ∧ c ≤ 'f' then some (c.toNat - 'a'.toNat + 10)
  else if 'A' ≤ c ∧ c ≤ 'F' then some (c.toNat - 'A'.toNat + 10)
  else none

/-- The number that four hexadecimal digits spell. -/
def hexUnit? (a b c d : Char) : Option Nat := do
  let a ← hexValue? a
  let b ← hexValue? b
  let c ← hexValue? c
  let d ← hexValue? d
  some (((a * 16 + b) * 16 + c) * 16 + d)

/-- The character of an escape of one letter. -/
def escapedChar? (c : Char) : Option Char :=
  if c = '"' ∨ c = '\\' ∨ c = '/' then some c
  else if c = 'b' then some '\x08'
  else if c = 'f' then some '\x0c'
  else if c = 'n' then some '\n'
  else if c = 'r' then some '\r'
  else if c = 't' then some '\t'
  else none

def isHighUnit (n : Nat) : Bool := 0xd800 ≤ n && n < 0xdc00

def isLowUnit (n : Nat) : Bool := 0xdc00 ≤ n && n < 0xe000

/-- The code point of a surrogate pair. -/
def pairCode (high low : Nat) : Nat := 0x10000 + (high - 0xd800) * 0x400 + (low - 0xdc00)

/-- Put a code point in front of characters in reverse. -/
def pushCode (code : Nat) (done : List Char) : List Char := (charsOf code).reverse ++ done

/-- Read the rest of a text, whose opening quote `start` begins with, after the characters `done` in
reverse. -/
def scanText (start done : List Char) : List Char → Reading String
  | [] => .error (.unterminated, start)
  | '"' :: rest => .ok (String.ofList done.reverse, rest)
  | '\\' :: 'u' :: a :: b :: c :: d :: '\\' :: 'u' :: e :: f :: g :: h :: next :: rest =>
      match hexUnit? a b c d with
      | none => .error (.unicodeEscape,
          'u' :: a :: b :: c :: d :: '\\' :: 'u' :: e :: f :: g :: h :: next :: rest)
      | some high =>
          if isHighUnit high then
            match hexUnit? e f g h with
            | none => .error (.unicodeEscape, 'u' :: e :: f :: g :: h :: next :: rest)
            | some low =>
                if isLowUnit low then scanText start (pushCode (pairCode high low) done) (next :: rest)
                else scanText start (pushCode high done)
                  ('\\' :: 'u' :: e :: f :: g :: h :: next :: rest)
          else scanText start (pushCode high done)
            ('\\' :: 'u' :: e :: f :: g :: h :: next :: rest)
  | '\\' :: 'u' :: a :: b :: c :: d :: next :: rest =>
      match hexUnit? a b c d with
      | none => .error (.unicodeEscape, 'u' :: a :: b :: c :: d :: next :: rest)
      | some n => scanText start (pushCode n done) (next :: rest)
  | '\\' :: 'u' :: rest => .error (.unicodeEscape, 'u' :: rest)
  | ['\\'] => .error (.unterminated, start)
  | '\\' :: c :: rest =>
      match escapedChar? c with
      | some e => scanText start (e :: done) rest
      | none => .error (.escape, '\\' :: c :: rest)
  | c :: rest =>
      if c.toNat < 0x20 then .error (.control, c :: rest) else scanText start (c :: done) rest

/-- Take the whole part of a numeral: one zero, or digits that begin with another. -/
def scanWhole? (cs : List Char) : Option (List Nat × List Char) :=
  match cs with
  | '0' :: rest => some ([0], rest)
  | _ =>
      let (digits, rest) := scanDigits cs
      if digits.isEmpty then none else some (digits, rest)

/-- Take a fraction, when there is a whole one. -/
def scanPlaces (cs : List Char) : List Nat × List Char :=
  match cs with
  | '.' :: after =>
      let (digits, rest) := scanDigits after
      if digits.isEmpty then ([], cs) else (digits, rest)
  | _ => ([], cs)

/-- Take an exponent, when there is a whole one. -/
def scanPower (cs : List Char) : Option Int × List Char :=
  match cs with
  | c :: after =>
      if c = 'e' ∨ c = 'E' then
        let (negative, body) := splitSign after
        let (digits, rest) := scanDigits body
        let size : Int := natOfDigits digits
        if digits.isEmpty then (none, cs) else (some (if negative then -size else size), rest)
      else (none, cs)
  | [] => (none, cs)

/-- Integers have no more digits than this. -/
def maxDigits : Nat := 4300

/-- Read a numeral. -/
def scanNumber (start : List Char) : Reading Value :=
  let (negative, body) :=
    match start with
    | '-' :: rest => (true, rest)
    | _ => (false, start)
  match scanWhole? body with
  | none => .error (.value, start)
  | some (whole, rest) =>
      let (places, rest) := scanPlaces rest
      let (power, rest) := scanPower rest
      if places.isEmpty && power.isNone then
        if maxDigits < whole.length then .error (.longNumeral, start)
        else
          let size : Int := natOfDigits whole
          .ok (.int (if negative then -size else size), rest)
      else
        let exponent := power.getD 0 - places.length
        .ok (.float (Double.ofDecimal negative (natOfDigits (whole ++ places)) exponent), rest)

/-- What follows a word at the head of a text. -/
def afterWord? (word : String) (cs : List Char) : Option (List Char) :=
  let letters := word.toList
  if letters.isPrefixOf cs then some (cs.drop letters.length) else none

/-- The values that are spelled as words. -/
def words : List (String × Value) :=
  [("null", .null), ("true", .bool true), ("false", .bool false), ("NaN", .float .nan),
    ("Infinity", .float (.infinite false)), ("-Infinity", .float (.infinite true))]

/-- Read a word or a numeral. -/
def scanAtom (cs : List Char) : Reading Value :=
  match words.findSome? fun (word, value) => (afterWord? word cs).map fun rest => (value, rest) with
  | some found => .ok found
  | none => scanNumber cs

mutual

/-- Read one value, in which values are nested at most `depth` deep. -/
def scanValue (fuel depth : Nat) (cs : List Char) : Reading Value :=
  match fuel, cs with
  | 0, _ => .error (.value, cs)
  | _, [] => .error (.value, cs)
  | fuel + 1, c :: rest =>
      if c = '"' then (scanText cs [] rest).map fun (s, rest) => (.text s, rest)
      else if c = '\x7b' ∨ c = '[' then
        match depth with
        | 0 => .error (.deep, cs)
        | depth + 1 =>
            match c, skipGap rest with
            | '\x7b', '\x7d' :: rest => .ok (.record [], rest)
            | '\x7b', rest => scanFields fuel depth [] rest
            | _, ']' :: rest => .ok (.list [], rest)
            | _, rest => scanItems fuel depth [] rest
      else scanAtom cs

/-- Read the items of a list, from one of them on, after the items `done` in reverse. -/
def scanItems (fuel depth : Nat) (done : List Value) (cs : List Char) : Reading Value :=
  match fuel with
  | 0 => .error (.value, cs)
  | fuel + 1 =>
      match scanValue fuel depth cs with
      | .error fault => .error fault
      | .ok (value, rest) =>
          match skipGap rest with
          | ']' :: rest => .ok (.list (value :: done).reverse, rest)
          | ',' :: rest => scanItems fuel depth (value :: done) (skipGap rest)
          | rest => .error (.comma, rest)

/-- Read the fields of a record, from one of them on, after the fields `done`. -/
def scanFields (fuel depth : Nat) (done : Fields) (cs : List Char) : Reading Value :=
  match fuel with
  | 0 => .error (.value, cs)
  | fuel + 1 =>
      match cs with
      | '"' :: rest =>
          match scanText cs [] rest with
          | .error fault => .error fault
          | .ok (name, rest) =>
              match skipGap rest with
              | ':' :: rest =>
                  match scanValue fuel depth (skipGap rest) with
                  | .error fault => .error fault
                  | .ok (value, rest) =>
                      match skipGap rest with
                      | '\x7d' :: rest => .ok (.record (done.put name value), rest)
                      | ',' :: rest => scanFields fuel depth (done.put name value) (skipGap rest)
                      | rest => .error (.comma, rest)
              | rest => .error (.colon, rest)
      | _ => .error (.name, cs)

end

/-- Read a text that is one value and nothing else, nested at most `depth` deep. -/
def readWithin (depth : Nat) (s : String) : Except Fault Value :=
  let cs := s.toList
  let fault (problem : Problem) (rest : List Char) : Except Fault Value :=
    .error ⟨problem, (codesOf cs).length - (codesOf rest).length⟩
  match scanValue (cs.length + 1) depth (skipGap cs) with
  | .error (problem, rest) => fault problem rest
  | .ok (value, rest) =>
      let rest := skipGap rest
      if rest.isEmpty then .ok value else fault .extra rest

/-- Read a text that is one value and nothing else. -/
def read (s : String) : Except Fault Value := readWithin s.length s

end Countersign.Json
