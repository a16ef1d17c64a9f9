/-
Module: Countersign.Json.Writer
Purpose: JSON text of a value.
Main exports: Json.Layout, Json.spaced, Json.compact, Json.write
-/
import Countersign.Value.Basic
import Countersign.Number.Shortest
import Countersign.Text.Quoted

namespace Countersign.Json

open Text

/-!
Every control character is written by its number, and where all is to be in ASCII every other character
outside it by those of its UTF-16 units. Dates and moments
are written as records show them.
-/

/-- What stands between items and between a name and its value, and whether all is in ASCII. -/
structure Layout where
  item : String
  pair : String
  asciiOnly : Bool := true

/-- A space after each comma and colon. -/
def spaced : Layout := ⟨", ", ": ", true⟩

/-- No spaces. -/
def compact : Layout := ⟨",", ":", true⟩

/-- No spaces, and characters as they are. -/
def plainCompact : Layout := ⟨",", ":", false⟩

def unit (n : Nat) : String := "\\u" ++ hexDigits 4 n

/-- How one code point stands in a JSON text. -/
def escaped (layout : Layout) (code : Nat) : String :=
  let c := Char.ofNat code
  if c = '"' then "\\\""
  else if c = '\\' then "\\\\"
  else if c = '\n' then "\\n"
  else if c = '\r' then "\\r"
  else if c = '\t' then "\\t"
  else if c = '\x08' then "\\b"
  else if c = '\x0c' then "\\f"
  else if 0x20 ≤ code ∧ (code < 0x7f ∨ layout.asciiOnly = false) then ofCodes [code]
  else if code < 0x10000 then unit code
  else unit (0xd800 + (code - 0x10000) / 0x400) ++ unit (0xdc00 + (code - 0x10000) % 0x400)

def writeText (layout : Layout) (s : String) : String :=
  "\"" ++ (codes s).foldl (fun done code => done ++ escaped layout code) "" ++ "\""

def writeDouble : Double → String
  | .nan => "NaN"
  | .infinite negative => if negative then "-Infinity" else "Infinity"
  | x => x.text

mutual

/-- The JSON text of a value. -/
def write (layout : Layout) : Value → String
  | .null => "null"
  | .bool b => if b then "true" else "false"
  | .int n => toString n
  | .float x => writeDouble x
  | .text s => writeText layout s
  | .date d => writeText layout d.text
  | .moment m => writeText layout m.plainText
  | .list items => "[" ++ layout.item.intercalate (writeItems layout items) ++ "]"
  | .record fields => "\x7b" ++ layout.item.intercalate (writeFields layout fields) ++ "\x7d"

def writeItems (layout : Layout) : List Value → List String
  | [] => []
  | v :: rest => write layout v :: writeItems layout rest

def writeFields (layout : Layout) : List (String × Value) → List String
  | [] => []
  | (name, v) :: rest =>
      (writeText layout name ++ layout.pair ++ write layout v) :: writeFields layout rest

end

end Countersign.Json
