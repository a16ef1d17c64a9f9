/-
Module: Countersign.Store.Term.Lists
Purpose: Operations on lists and sets in terms.
Main exports: Term.listOperations, Term.setOperations
-/
import Countersign.Store.Term.Arithmetic

namespace Countersign.Term

/-! ### Lists -/

def concatenatedLists (node : Node) : Meaning := fun scope => do
  let nodes := match node.operand with
    | .list _ => node.items
    | _ => [node]
  let values ← nodes.mapM (·.valueOrNull scope)
  let isFit : Value → Bool
    | .null => true
    | .list _ => true
    | _ => false
  match values.find? (!isFit ·) with
  | some v => throw (.term (.notLists v))
  | none =>
      if values.any (Value.null.same ·) then return .null
      else return .list (values.flatMap fun v => match v with | .list items => items | _ => [])

def sizeOfList (node : Node) : Meaning := fun scope => do
  let node ← match node.operand, node.items with
    | .list _, [one] => pure one
    | .list items, _ => throw (.term (.sizeOfSeveral items.length))
    | _, _ => pure node
  match ← node.meaning scope with
  | .list items => return .int items.length
  | v => throw (.term (.sizeOfNoList v))

/-- Where a part of a list begins, and how many items it has at most. -/
def sliceBounds (size : Nat) (start : Int) (length : Option Int) : Nat × Nat :=
  match length with
  | none => if start < 0 then ((size + start).toNat, size) else (0, start.toNat)
  | some length =>
      if 0 ≤ start then (start.toNat, length.toNat)
      else
        -- The end is counted from the end of the list as soon as it is negative.
        let stop := size + start + length
        let stop := if stop < 0 then (size + stop).toNat else stop.toNat
        let first := (size + start).toNat
        (first, stop - first)

def partOfList (node : Node) : Meaning := fun scope => do
  match node.operand with
  | .list operands =>
      if operands.length < 2 || 3 < operands.length then
        throw (.term (.sliceCount operands.length))
      match node.items, operands with
      | list :: _, _ :: start :: length =>
          match ← list.meaning scope with
          | .list items =>
              match intOf? start, length.map intOf? with
              | some start, [] =>
                  let (first, count) := sliceBounds items.length start none
                  return .list ((items.drop first).take count)
              | some start, some length :: _ =>
                  if length ≤ 0 then throw (.term (.sliceLength length))
                  else
                    let (first, count) := sliceBounds items.length start (some length)
                    return .list ((items.drop first).take count)
              | none, _ => throw (.term (.sliceArgument "Second" start))
              | _, _ => throw (.term (.sliceArgument "Third" (length.headD .null)))
          | v => throw (.term (.sliceOfNoList v))
      | _, _ => throw .badTerms
  | _ => throw (.term .sliceNotList)

/-- The name that each item of a list is given in turn. -/
def itemName (node : Node) : String :=
  ((node.field? "as").bind fun name => name.operand.text?).getD "this"

def filtered (node : Node) : Meaning := fun scope => do
  match node.operand with
  | .record fields =>
      match fields.find? fun (name, _) => !(["input", "cond", "as"].contains name) with
      | some (name, _) => throw (.term (.unknownPart "$filter" name))
      | none =>
          match node.field? "input", node.field? "cond" with
          | some input, some condition => do
              let kept ← (← membersOf (← input.meaning scope)).filterM fun item => do
                return (← condition.meaning (scope.naming (itemName node) item)).truthy
              return .list kept
          | none, _ => throw (.term (.missingPart "$filter" "input"))
          | _, none => throw (.term (.missingPart "$filter" "cond"))
  | _ => throw (.term (.notPartsOf "$filter"))

def mapped (node : Node) : Meaning := fun scope => do
  match node.operand with
  | .record fields =>
      match node.field? "input", node.field? "in" with
      | some input, some outcome =>
          match fields.find? fun (name, _) => !(["input", "as", "in"].contains name) with
          | some (name, _) => throw (.term (.unknownPart "$map" name))
          | none =>
              match ← input.valueOrNull scope with
              | .null => return .null
              | .list items =>
                  return .list (← items.mapM fun item =>
                    outcome.meaning (scope.naming (itemName node) item))
              | v => throw (.term (.mapOfNoList v))
      | none, _ => throw (.term (.missingPart "$map" "input"))
      | _, none => throw (.term (.missingPart "$map" "in"))
  | _ => throw (.term (.notPartsOf "$map"))

/-- The thing at a place of a list or a text, or under a name of a record. -/
def elementAt (node : Node) : Meaning := fun scope => do
  match ← node.exactly 2 with
  | [whole, place] =>
      let whole ← whole.meaning scope
      let place ← place.meaning scope
      let found ← match whole, intOf? place, place with
        | .list items, some place, _ => pure (itemAt? items place)
        | .text s, some place, _ => pure ((itemAt? (Text.letters s) place).map .text)
        | .record fields, _, .text name => pure (Fields.get? fields name)
        | .record _, _, .list _ => throw .notUsable
        | .record _, _, .record _ => throw .notUsable
        | .record _, _, _ => pure none
        | _, _, _ => throw .notUsable
      match found with
      | some v => return v
      | none => throw .fieldMissing
  | _ => throw .badTerms

def listOperations : List (String × (Node → Meaning)) :=
  [("$concatArrays", concatenatedLists), ("$size", sizeOfList), ("$slice", partOfList),
    ("$filter", filtered), ("$map", mapped), ("$arrayElemAt", elementAt)]

/-! ### Sets -/

/-- Whether a value is among those that another is gone through by; a text is among texts where it is a
part of them. -/
def contains (v : Value) : Value → Except FilterFault Bool
  | .list items => .ok (items.any v.same)
  | .text s =>
      match v with
      | .text part => .ok (Text.isInfix (Text.codes part) (Text.codes s))
      | _ => .error .notUsable
  | .record fields =>
      match v with
      | .text name => .ok (Fields.has fields name)
      | .list _ => .error .notUsable
      | .record _ => .error .notUsable
      | _ => .ok false
  | _ => .error .notUsable

def membership (node : Node) : Meaning := fun scope => do
  match ← node.exactly 2 with
  | [one, all] =>
      let one ← one.meaning scope
      return .bool (← contains one (← all.meaning scope))
  | _ => throw .badTerms

/-- A value that may be in a set. -/
def isElement : Value → Bool
  | .list _ => false
  | .record _ => false
  | _ => true

/-- The lists that sets are made of. -/
def setsOf (node : Node) (scope : Scope) : Except FilterFault (List (List Value)) := do
  (← node.parts).mapM fun part => do membersOf (← part.meaning scope)

def union (node : Node) : Meaning := fun scope => do
  let all := (← setsOf node scope).flatten
  return .list (all.foldl (fun found v => if found.any v.same then found else found ++ [v]) [])

def areEqual (node : Node) : Meaning := fun scope => do
  let sets ← setsOf node scope
  if sets.any fun set => set.any (!isElement ·) then throw .notUsable
  let within (set other : List Value) : Bool := set.all fun v => other.any v.same
  return .bool (sets.all fun set => sets.all (within set))

def setOperations : List (String × (Node → Meaning)) :=
  [("$in", membership), ("$setUnion", union), ("$setEquals", areEqual)]

end Countersign.Term
