/-
Module: Countersign.Store.Term.Kinds
Purpose: Values of one kind made of another in terms, and parts of moments.
Main exports: Term.kindOperations, Term.momentParts
-/
import Countersign.Store.Term.Arithmetic

namespace Countersign.Term

/-! ### Kinds -/

def asText (node : Node) : Meaning := fun scope => do
  match ← node.value? scope with
  | none => return .null
  | some (.bool b) => return .text (if b then "true" else "false")
  | some (.moment m) =>
      -- The last three characters are those behind milliseconds, if there are any.
      let shown := m.fullText.toList
      return .text (String.ofList (shown.take (shown.length - 3)) ++ "Z")
  | some v => return .text v.display

def asWhole (node : Node) : Meaning := fun scope => do
  match ← node.value? scope with
  | none => return .null
  | some (.float x) => wholeOf truncated? x
  | some (.text s) =>
      match Numeral.readInteger? s with
      | some n => return .int n
      | none => throw (.notWhole s)
  | some v => match intOf? v with
    | some n => return .int n
    | none => throw .notUsable

/-- The field that a list of records of names and values has, if it is one. -/
def namedPair? : Value → Option (Value × Value)
  | .record fields =>
      match Fields.get? fields "k", Fields.get? fields "v" with
      | some name, some v => if fields.length = 2 then some (name, v) else none
      | _, _ => none
  | _ => none

def plainPair? : Value → Option (Value × Value)
  | .list [name, v] => some (name, v)
  | _ => none

/-- The record of some names and values. Only texts are names. -/
def recordOf (pairs : List (Value × Value)) : Except FilterFault Value := do
  let fields ← pairs.mapM fun (name, v) =>
    match name with
    | .text name => .ok (name, v)
    | _ => .error .notUsable
  return .record (Fields.putAll [] fields)

def asRecord (node : Node) : Meaning := fun scope => do
  match ← node.valueOrNull scope with
  | .null => return .null
  | .list items =>
      match items.mapM namedPair?, items.mapM plainPair? with
      | some pairs, _ => recordOf pairs
      | none, some pairs => recordOf pairs
      | none, none => throw (.term .notPairs)
  | v => throw (.term (.recordOfNoList v))

def asPairs (node : Node) : Meaning := fun scope => do
  match ← node.valueOrNull scope with
  | .null => return .null
  | .record fields =>
      return .list (fields.map fun (name, v) => .record [("k", .text name), ("v", v)])
  | v => throw (.term (.pairsOfNoRecord v))

def isNumberTerm (node : Node) : Meaning := fun scope => do
  return .bool ((← node.value? scope).any fun v => isNumber v && !v.isBool)

def isListTerm (node : Node) : Meaning := fun scope => do
  return .bool ((← node.value? scope).any fun v => match v with | .list _ => true | _ => false)

def kindOperations : List (String × (Node → Meaning)) :=
  [("$toString", asText), ("$toInt", asWhole), ("$toLong", asWhole), ("$arrayToObject", asRecord),
    ("$objectToArray", asPairs), ("$isNumber", isNumberTerm), ("$isArray", isListTerm)]

/-! ### Parts of moments -/

/-- The day of the week, Sunday being the first. -/
def weekday (d : Date) : Int := (d.toDays + 4) % 7 + 1

/-- The day of the year, the first one being 1. -/
def yearDay (d : Date) : Int := d.toDays - (Date.mk d.year 1 1).toDays + 1

/-- Parts of moments by name. Weeks of a year begin with its first Sunday. -/
def momentParts : List (String × (Moment → Int)) :=
  let clock (unit : Nat) (m : Moment) : Int := (m.timeOfDay / unit : Nat)
  [("$year", fun m => m.date.year), ("$month", fun m => m.date.month),
    ("$dayOfMonth", fun m => m.date.day), ("$dayOfYear", fun m => yearDay m.date),
    ("$dayOfWeek", fun m => weekday m.date),
    ("$week", fun m => (yearDay m.date + 7 - weekday m.date) / 7),
    ("$hour", clock 3600000000), ("$minute", fun m => clock 60000000 m % 60),
    ("$second", fun m => clock 1000000 m % 60), ("$millisecond", fun m => clock 1000 m % 1000)]

/-- A part of the moment that a term stands for. -/
def momentPart (part : Moment → Int) (node : Node) : Meaning := fun scope => do
  match ← node.meaning scope with
  | .moment m => return .int (part m)
  | _ => throw .partless

end Countersign.Term
