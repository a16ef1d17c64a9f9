/-
Module: Countersign.Value.Display
Purpose: Values inside sentences: names of constants, numerals, lists and records in brackets.
Main exports: Value.display, Value.literal, Value.kindName
-/
import Countersign.Value.Basic
import Countersign.Calendar.Literal
import Countersign.Number.Shortest
import Countersign.Text.Quoted

namespace Countersign.Value

open Text

/-!
A sentence shows a text, a date and a moment as they are, and any other value by its literal. Inside a
list or a record all values stand by their literals, where texts are quoted.
-/

def boolName (b : Bool) : String := if b then "True" else "False"

mutual

/-- The literal of a value. -/
def literal : Value → String
  | .null => "None"
  | .bool b => boolName b
  | .int n => toString n
  | .float x => x.text
  | .text s => quoted s
  | .date d => d.literal
  | .moment m => m.literal
  | .list items => "[" ++ ", ".intercalate (itemLiterals items) ++ "]"
  | .record fields => "\x7b" ++ ", ".intercalate (fieldLiterals fields) ++ "\x7d"

def itemLiterals : List Value → List String
  | [] => []
  | v :: rest => literal v :: itemLiterals rest

def fieldLiterals : List (String × Value) → List String
  | [] => []
  | (name, v) :: rest => (quoted name ++ ": " ++ literal v) :: fieldLiterals rest

end

/-- The value as a sentence shows it. -/
def display : Value → String
  | .text s => s
  | .date d => d.text
  | .moment m => m.spacedText
  | v => v.literal

/-- The kind of a value as a sentence names it. -/
def kindName (v : Value) : String :=
  let name := match v with
    | .null => "NoneType"
    | .bool _ => "bool"
    | .int _ => "int"
    | .float _ => "float"
    | .text _ => "str"
    | .date _ => "datetime.date"
    | .moment _ => "datetime.datetime"
    | .list _ => "list"
    | .record _ => "dict"
  "<class '" ++ name ++ "'>"

end Countersign.Value
