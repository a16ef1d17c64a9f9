/-
Module: Countersign.Value.Dump
Purpose: Values of any kind as records that are written keep them.
Main exports: DumpFault, Value.dumped, Value.dumpFault?
-/
import Countersign.Value.Basic
import Countersign.Text.CodePoint

namespace Countersign

/-!
Where a record may hold any value, dates and moments are written out, numbers that are not finite become
null, and names get substitutes for what has no form in bytes. A text has no substitutes, and values in
values are written down to a fixed depth only.
-/

/-- Why a value cannot be written. -/
inductive DumpFault where
  | notEncodable
  | tooDeep
deriving DecidableEq, Repr

namespace Dump

/-- The fields of a record as they are written. Names that have become the same are one field, at the
first place and with the last value. -/
def entries (fields : Fields) : Fields :=
  if fields.any fun field => Text.hasHalf field.1 then
    Fields.putAll [] (fields.map fun (name, v) => (Text.withoutHalves name, v))
  else fields

theorem entries_of_whole {fields : Fields} (whole : ∀ field ∈ fields, Text.hasHalf field.1 = false) :
    entries fields = fields := by
  unfold entries
  rw [if_neg]
  intro some
  obtain ⟨field, within, half⟩ := List.any_eq_true.1 some
  rw [whole field within] at half
  cases half

end Dump

namespace Value

/-- How far down values are written. The values of a record that is written lie at depth 1. -/
def maxDumpDepth : Nat := 255

mutual

/-- The value as it is written. -/
def dumped : Value → Value
  | .float x => if x.isFinite then .float x else .null
  | .date d => .text d.text
  | .moment m => .text m.plainText
  | .list items => .list (dumpedItems items)
  | .record fields => .record (Dump.entries (dumpedFields fields))
  | v => v

def dumpedItems : List Value → List Value
  | [] => []
  | v :: rest => dumped v :: dumpedItems rest

def dumpedFields : List (String × Value) → List (String × Value)
  | [] => []
  | (name, v) :: rest => (name, dumped v) :: dumpedFields rest

end

mutual

/-- Why a value cannot be written where so many depths are left, if it cannot. -/
def dumpFaultWithin? : Nat → Value → Option DumpFault
  | 0, _ => some .tooDeep
  | room + 1, v =>
      match v with
      | .text s => if Text.hasHalf s then some .notEncodable else none
      | .list items => itemsDumpFault? room items
      | .record fields => fieldsDumpFault? room fields
      | _ => none

def itemsDumpFault? (room : Nat) : List Value → Option DumpFault
  | [] => none
  | v :: rest => (dumpFaultWithin? room v).or (itemsDumpFault? room rest)

def fieldsDumpFault? (room : Nat) : List (String × Value) → Option DumpFault
  | [] => none
  | (_, v) :: rest => (dumpFaultWithin? room v).or (fieldsDumpFault? room rest)

end

/-- Why the values of a record cannot be written, if they cannot. -/
def dumpFault? (fields : Fields) : Option DumpFault := fieldsDumpFault? maxDumpDepth fields

end Value

end Countersign
