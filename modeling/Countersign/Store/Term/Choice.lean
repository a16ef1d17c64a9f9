/-
Module: Countersign.Store.Term.Choice
Purpose: Comparisons in terms, truth, and choices by it.
Main exports: Term.comparison, Term.junction, Term.choice
-/
import Countersign.Store.Term.Node

namespace Countersign.Term

/-! ### Comparisons -/

/-- The comparisons that go by the order of values. -/
def orders : List (String × List Ordering) :=
  [("$gt", [.gt]), ("$gte", [.gt, .eq]), ("$lt", [.lt]), ("$lte", [.lt, .eq])]

def comparisons : List String := ["$eq", "$ne"] ++ orders.map (·.1)

/-- Compare two values. -/
def compare (name : String) (left right : Value) : Bool :=
  match orders.lookup name with
  | some wanted => ((left.order? right).map wanted.contains).getD false
  | none => left.same right != (name == "$ne")

/-- The two nodes of a comparison. -/
def pairOf (node : Node) : Except FilterFault (Node × Node) :=
  match node.operand, node.parts with
  | .record fields, _ => .error (if fields.length = 2 then .fieldMissing else .badTerms)
  | _, .ok [left, right] => .ok (left, right)
  | _, .ok _ => .error .badTerms
  | _, .error fault => .error fault

def comparison (name : String) (node : Node) : Meaning := fun scope => do
  let (left, right) ← pairOf node
  let left ← left.meaning scope
  return .bool (compare name left (← right.meaning scope))

/-! ### Truth -/

def junctions : List String := ["$and", "$or", "$not"]

def junction (name : String) (node : Node) : Meaning := fun scope => do
  match name with
  | "$and" => return .bool ((← (← node.parts).mapM (·.isTrue scope)).all id)
  | "$or" => return .bool (← (← node.parts).anyM (·.isTrue scope))
  | _ => return .bool !(← node.isTrue scope)

def choices : List String := ["$cond", "$ifNull", "$switch"]

/-- The three nodes of a choice by one condition. -/
def branchesOf (node : Node) : Except FilterFault (Node × Node × Node) := do
  match node.operand with
  | .list _ =>
      match ← node.exactly 3 with
      | [condition, yes, no] => return (condition, yes, no)
      | _ => throw .badTerms
  | .record _ =>
      match node.field? "if", node.field? "then", node.field? "else" with
      | some condition, some yes, some no => return (condition, yes, no)
      | _, _, _ => throw .fieldMissing
  | _ => throw .notSet

/-- The first of several terms that has a value other than null, the last one being taken as it is. -/
def firstPresent (scope : Scope) : List Node → Except FilterFault Value
  | [] => .error .placeMissing
  | [last] => last.meaning scope
  | node :: rest => do
      match ← node.valueOrNull scope with
      | .null => firstPresent scope rest
      | v => return v

/-- What is wrong with a branch of a switch, if anything is. -/
def branchFault? (branch : Node) : Option TermFault :=
  match branch.operand with
  | .record fields =>
      if !Fields.has fields "case" then some .branchWithoutCase
      else if !Fields.has fields "then" then some .branchWithoutThen
      else none
  | v => some (.branchNotRecord v)

/-- The value of the first branch whose case is true. -/
def firstBranch (scope : Scope) (otherwise : Except FilterFault Value) :
    List Node → Except FilterFault Value
  | [] => otherwise
  | branch :: rest => do
      match branch.field? "case", branch.field? "then" with
      | some test, some outcome =>
          if ← test.isTrue scope then outcome.meaning scope else firstBranch scope otherwise rest
      | _, _ => firstBranch scope otherwise rest

def switch (node : Node) : Meaning := fun scope =>
  match node.operand with
  | .record _ =>
      let branches := (node.field? "branches").getD (.mk (.list []) (fun _ => .ok (.list [])) [] [])
      match branches.operand with
      | .list items =>
          if items.isEmpty then .error (.term .noBranches)
          else match branches.items.findSome? branchFault? with
            | some fault => .error (.term fault)
            | none =>
                let otherwise := match node.field? "default" with
                  | some last => last.meaning scope
                  | none => .error (.term .noBranchTaken)
                firstBranch scope otherwise branches.items
      | v => .error (.term (.branchesNotList v))
  | v => .error (.term (.switchNotRecord v))

def choice (name : String) (node : Node) : Meaning := fun scope => do
  match name with
  | "$cond" =>
      let (condition, yes, no) ← branchesOf node
      if ← condition.isTrue scope then yes.meaning scope else no.meaning scope
  | "$ifNull" =>
      match node.operand with
      | .record _ => throw .notUsable
      | _ => firstPresent scope (← node.parts)
  | _ => switch node scope

end Countersign.Term
