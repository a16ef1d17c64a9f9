/-
Module: Countersign.Condition.Evaluation
Purpose: When a condition holds on a record of facts.
Main exports: Fact, factOf, valuesEqual, number?, Comparison.holds, Membership.holds,
  Condition.holds, Combinator, Combinator.holds, LooseCondition
-/
import Countersign.Condition.Basic
import Countersign.Number.Numeral

namespace Countersign

/-!
A fact that is missing or null is absent. An absent fact equals nothing and is in no list, so only
`not_equals` and `not_in` hold on it. A truth value equals only a truth value; all other values are
equal as `Value.same` says. The four order operators compare doubles: integers are rounded to one,
texts are read as one, and what has no double makes the condition fail. A set of no conditions never
holds.
-/

/-- A fact, or none where the record has no value for it. -/
abbrev Fact := Option Value

/-- The fact of a name. -/
def factOf (facts : Fields) (name : String) : Fact :=
  match facts.get? name with
  | some .null => none
  | found => found

/-- Equality of a fact and an operand. -/
def valuesEqual (left right : Value) : Bool :=
  if left.isBool || right.isBool then left.isBool && right.isBool && left.same right
  else left.same right

/-- What became of a value that was taken as a number. -/
inductive NumberReading where
  | number (x : Double)
  | notNumber
  | tooLarge
deriving DecidableEq, Repr

/-- A value as a double. Texts are read without the blanks at their ends. -/
def readNumber : Value → NumberReading
  | .int n => (Double.ofInt n).elim .tooLarge .number
  | .float x => .number x
  | .text s =>
      match Numeral.readDouble? (Text.strip s) with
      | some x => .number x
      | none => .notNumber
  | _ => .notNumber

def readFact : Fact → NumberReading
  | some v => readNumber v
  | none => .notNumber

/-- Compare a fact and an operand as doubles. -/
def compareNumbers (test : Double → Double → Bool) (fact : Fact) (operand : Value) : Bool :=
  match readFact fact, readNumber operand with
  | .number x, .number y => test x y
  | _, _ => false

/-- Whether one of two numbers is beyond the doubles, so that they cannot be compared. -/
def overflows (fact : Fact) (operand : Value) : Bool :=
  readFact fact == .tooLarge || readNumber operand == .tooLarge

/-- Whether a comparison looks at order. -/
def Comparison.isOrder : Comparison → Bool
  | equals => false
  | notEquals => false
  | _ => true

/-- Whether a comparison holds between a fact and an operand. -/
def Comparison.holds (operator : Comparison) (fact : Fact) (operand : Value) : Bool :=
  match operator with
  | equals =>
      match fact with
      | some v => valuesEqual v operand
      | none => false
  | notEquals =>
      match fact with
      | some v => !valuesEqual v operand
      | none => true
  | greaterThan => compareNumbers (fun x y => y.lt x) fact operand
  | lessThan => compareNumbers Double.lt fact operand
  | greaterOrEqual => compareNumbers (fun x y => y.le x) fact operand
  | lessOrEqual => compareNumbers Double.le fact operand

/-- Whether a membership test holds between a fact and its operands. -/
def Membership.holds (operator : Membership) (fact : Fact) (operands : List Value) : Bool :=
  match fact with
  | none => operator == .notIn
  | some v =>
      let found := operands.any (valuesEqual v)
      match operator with
      | isIn => found
      | isOneOf => found
      | notIn => !found

namespace Condition

/-- Whether a condition holds on a record of facts. -/
def holds (facts : Fields) : Condition → Bool
  | compare field operator operand => operator.holds (factOf facts field) operand.value
  | member field operator operands =>
      operator.holds (factOf facts field) (operands.map Scalar.value)

/-- What there is to say about a condition that could not be evaluated. -/
def complaint? (facts : Fields) : Condition → Option String
  | compare field operator operand =>
      if operator.isOrder && overflows (factOf facts field) operand.value then
        some (s!"Condition evaluation failed for field '{field}': "
          ++ "int too large to convert to float")
      else none
  | member .. => none

end Condition

/-- How the conditions of a rule are joined. -/
inductive Combinator where
  | all
  | any
deriving DecidableEq, Repr

namespace Combinator

def name : Combinator → String
  | all => "AND"
  | any => "OR"

def choices : List (String × Combinator) := [("AND", all), ("OR", any)]

/-- Join the results of single conditions; no results never hold. -/
def join (combinator : Combinator) (results : List Bool) : Bool :=
  if results.isEmpty then false
  else match combinator with
    | any => results.any (·)
    | all => results.all (·)

/-- Whether a set of conditions holds on a record of facts. -/
def holds (combinator : Combinator) (conditions : List Condition) (facts : Fields) : Bool :=
  combinator.join (conditions.map (Condition.holds facts))

end Combinator

/-- A condition whose parts were never checked: any part may be missing or of any kind. It is a
membership test when `isMember` says so, whatever its operator. -/
structure LooseCondition where
  isMember : Bool
  parts : Fields
deriving Repr

namespace LooseCondition

/-- The fact that a loose condition is about. A field that is not a text names no fact, and one that is
a list or a record cannot name one. -/
def fact? (facts : Fields) : Value → Option Fact
  | .text name => some (factOf facts name)
  | .list _ => none
  | .record _ => none
  | _ => some none

/-- The items of what stands for a list of operands. -/
def operands? : Value → Option (List Value)
  | .list items => some items
  | .text s => some ((Text.letters s).map .text)
  | .record fields => some (fields.map fun (name, _) => .text name)
  | _ => none

/-- Whether a membership test with any operator holds. -/
def memberHolds (operator : Value) (fact : Fact) (operands : Value) : Bool :=
  match operator.text?.bind Membership.ofName?, fact with
  | some membership, none => membership.holds none []
  | some membership, some v =>
      match operands? operands with
      | some items => membership.holds (some v) items
      | none => false
  | none, _ => false

/-- Whether a comparison with any operator holds. -/
def compareHolds (operator : Value) (fact : Fact) (operand : Value) : Bool :=
  match operator.text?.bind Comparison.ofName? with
  | some comparison => comparison.holds fact operand
  | none => false

/-- Whether a loose condition holds. One that lacks a part never does. -/
def holds (facts : Fields) (condition : LooseCondition) : Bool :=
  let operandName := if condition.isMember then "values" else "value"
  match condition.parts.get? "field", condition.parts.get? "operator",
      condition.parts.get? operandName with
  | some field, some operator, some operand =>
      match fact? facts field with
      | none => false
      | some fact =>
          if condition.isMember then memberHolds operator fact operand
          else compareHolds operator fact operand
  | _, _, _ => false

end LooseCondition

end Countersign
