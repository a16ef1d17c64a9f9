/-
Module: Countersign.Store.Term
Purpose: Terms over the fields of documents, for which filters may ask.
Main exports: Term.read, Term.evaluate
-/
import Countersign.Store.Term.Operation

namespace Countersign.Term

/-!
A text with a `$` in front stands for the field of that name, a record with one name that begins so for the
outcome of an operation, and anything else for itself. In a record of terms the fields that have no value
are left out.
-/

/-- The fields that have a value. -/
def present (scope : Scope) : List (String × Node) → Except FilterFault Fields
  | [] => .ok []
  | (name, node) :: rest => do
      match ← node.value? scope with
      | some v => return (name, v) :: (← present scope rest)
      | none => present scope rest

/-- What a record stands for. -/
def recordMeaning (fields : Fields) (nodes : List (String × Node)) : Meaning := fun scope =>
  match nodes with
  | [(name, node)] =>
      if isSigned name then apply name node scope else .record <$> present scope nodes
  | nodes =>
      if fields.any (isSigned ·.1) then .error (.namesMixed fields)
      else .record <$> present scope nodes

mutual

/-- Read a value as a term. -/
def read : Value → Node
  | .text s => .ofText s
  | .list items => .mk (.list items) (fun _ => .ok (.list items)) (readItems items) []
  | .record fields =>
      let nodes := readFields fields
      .mk (.record fields) (recordMeaning fields nodes) [] nodes
  | v => .mk v (fun _ => .ok v) [] []

def readItems : List Value → List Node
  | [] => []
  | v :: rest => read v :: readItems rest

def readFields : List (String × Value) → List (String × Node)
  | [] => []
  | (name, v) :: rest => (name, read v) :: readFields rest

end

/-- The value of a term for a document. -/
def evaluate (document term : Value) : Except FilterFault Value := (read term).meaning { document }

end Countersign.Term
