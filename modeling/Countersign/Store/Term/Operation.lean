/-
Module: Countersign.Store.Term.Operation
Purpose: All the operations of terms by name.
Main exports: Term.apply
-/
import Countersign.Store.Term.Choice
import Countersign.Store.Term.Kinds
import Countersign.Store.Term.Lists
import Countersign.Store.Term.Texts

namespace Countersign.Term

/-- A term with names of its own. -/
def naming (node : Node) : Meaning := fun scope => do
  match node.operand with
  | .record _ =>
      match node.field? "vars", node.field? "in" with
      | none, _ => throw (.term (.missingPart "$let" "vars"))
      | _, none => throw (.term (.missingPart "$let" "in"))
      | some names, some outcome =>
          match names.operand with
          | .record _ =>
              let given ← names.fields.mapM fun (name, node) => do
                return (name, ← node.meaning scope)
              outcome.meaning { scope with named := scope.named.putAll given }
          | _ => throw (.term .namesNotRecord)
  | _ => throw (.term (.notPartsOf "$let"))

/-- The operations that the store knows by name alone. -/
def otherNames : List String :=
  ["$exp", "$ln", "$log10", "$sqrt", "$log", "$pow", "$stdDevPop", "$stdDevSamp", "$cmp",
    "$dateFromString", "$dateToString", "$dateFromParts", "$isoDayOfWeek", "$isoWeek", "$isoWeekYear",
    "$indexOfArray", "$range", "$reduce", "$reverseArray", "$zip", "$meta", "$indexOfBytes",
    "$indexOfCP", "$strLenBytes", "$strLenCP", "$substrBytes", "$substrCP", "$trim",
    "$setIntersection", "$setDifference", "$setIsSubset", "$anyElementTrue", "$allElementsTrue",
    "$convert", "$toDecimal", "$mergeObjects", "$addToSet", "$push"]

/-- The operations that are made by themselves. -/
def plainOperations : List (String × (Node → Meaning)) :=
  [("$literal", fun node _ => .ok node.operand), ("$let", naming)] ++ textOperations
    ++ listOperations ++ setOperations ++ kindOperations

/-- Apply the operation of a name. -/
def apply (name : String) (node : Node) : Meaning :=
  if comparisons.contains name then comparison name node
  else if junctions.contains name then junction name node
  else if choices.contains name then choice name node
  else if summaries.contains name then summary name node
  else match unary.lookup name, binary.lookup name, folds.lookup name with
    | some (whole, double), _, _ => applyUnary whole double node
    | _, some operation, _ => applyBinary name operation node
    | _, _, some operation => applyFold operation node
    | none, none, none =>
        match plainOperations.lookup name, momentParts.lookup name with
        | some operation, _ => operation node
        | none, some part => momentPart part node
        | none, none =>
            fun _ => .error (if otherNames.contains name then .notSupported else .unknownTerm name)

end Countersign.Term
