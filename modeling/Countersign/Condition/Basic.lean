/-
Module: Countersign.Condition.Basic
Purpose: Conditions of approval rules: a field of a ticket's facts, an operator and what to compare with.
Main exports: Scalar, Comparison, Membership, Condition, Condition.check, Condition.value
-/
import Countersign.Schema.Checked
import Countersign.Value.Display

namespace Countersign

/-!
A condition compares a fact with one scalar or tests it for membership in a list of scalars. The
operator alone decides which of the two a payload must be, so a payload is checked against exactly one
grammar, and no scalar changes its kind on the way.
-/

/-- What a condition compares a fact with. -/
inductive Scalar where
  | bool (b : Bool)
  | int (n : Int)
  | float (x : Double)
  | text (s : String)
deriving DecidableEq, Repr

namespace Scalar

def value : Scalar → Value
  | bool b => .bool b
  | int n => .int n
  | float x => .float x
  | text s => .text s

/-- A value of one of the four kinds, kept as it is. Any other value fails once for each kind. -/
def check : Reader Scalar
  | .bool b => .accepted (bool b)
  | .int n => .accepted (int n)
  | .float x => .accepted (float x)
  | .text s => .accepted (text s)
  | v => .refused [⟨.notBool, [.field "bool"], v⟩, ⟨.notInt, [.field "int"], v⟩,
      ⟨.notNumber, [.field "float"], v⟩, ⟨.notText, [.field "str"], v⟩]

@[simp] theorem check_value (s : Scalar) : check s.value = .accepted s := by
  cases s <;> rfl

/-- Only the written form of a scalar is read as that scalar. -/
theorem value_of_check {v : Value} {s : Scalar} (read : check v = .accepted s) : s.value = v := by
  cases v <;> simp [check] at read <;> subst read <;> rfl

end Scalar

/-- Operators that take one scalar. -/
inductive Comparison where
  | equals
  | notEquals
  | greaterThan
  | lessThan
  | greaterOrEqual
  | lessOrEqual
deriving DecidableEq, Repr

namespace Comparison

def name : Comparison → String
  | equals => "equals"
  | notEquals => "not_equals"
  | greaterThan => "greater_than"
  | lessThan => "less_than"
  | greaterOrEqual => "greater_or_equal"
  | lessOrEqual => "less_or_equal"

def all : List Comparison :=
  [equals, notEquals, greaterThan, lessThan, greaterOrEqual, lessOrEqual]

def ofName? (s : String) : Option Comparison := all.find? (·.name == s)

@[simp] theorem ofName?_name (c : Comparison) : ofName? c.name = some c := by
  cases c <;> decide

end Comparison

/-- Operators that take a list of scalars. -/
inductive Membership where
  | isIn
  | notIn
  | isOneOf
deriving DecidableEq, Repr

namespace Membership

def name : Membership → String
  | isIn => "in"
  | notIn => "not_in"
  | isOneOf => "is_one_of"

def all : List Membership := [isIn, notIn, isOneOf]

def ofName? (s : String) : Option Membership := all.find? (·.name == s)

@[simp] theorem ofName?_name (m : Membership) : ofName? m.name = some m := by
  cases m <;> decide

/-- No membership operator has the name of a comparison. -/
theorem comparison_ofName?_name (m : Membership) : Comparison.ofName? m.name = none := by
  cases m <;> decide

end Membership

/-- A condition on one field of the facts. -/
inductive Condition where
  | compare (field : String) (operator : Comparison) (operand : Scalar)
  | member (field : String) (operator : Membership) (operands : List Scalar)
deriving DecidableEq, Repr

namespace Condition

open Checked

def field : Condition → String
  | compare field _ _ => field
  | member field _ _ => field

def operatorNames : List String := Comparison.all.map (·.name) ++ Membership.all.map (·.name)

/-- The condition as a record. -/
def value : Condition → Value
  | compare field operator operand =>
      .record [("field", .text field), ("operator", .text operator.name), ("value", operand.value)]
  | member field operator operands =>
      .record [("field", .text field), ("operator", .text operator.name),
        ("values", .list (operands.map Scalar.value))]

/-- Read a comparison whose operator is known. -/
def checkCompare (operator : Comparison) (fields : Fields) : Checked Condition :=
  fields.wholly <|
    (fun field operand _ => compare field operator operand)
      <$> fields.required "field" (Reader.boundedText 1 none)
      <*> fields.required "value" Scalar.check
      <*> fields.closed ["field", "operator", "value"]

/-- Read a membership test whose operator is known. -/
def checkMember (operator : Membership) (fields : Fields) : Checked Condition :=
  fields.wholly <|
    (fun field operands _ => member field operator operands)
      <$> fields.required "field" (Reader.boundedText 1 none)
      <*> fields.required "values" (Reader.someItems Scalar.check)
      <*> fields.closed ["field", "operator", "values"]

/-- Read a condition. Which grammar holds is decided by the operator, and faults within it lie under the
operator's name. -/
def check : Reader Condition
  | .record fields =>
      match Fields.get? fields "operator" with
      | none => fail (.noTag "operator") (.record fields)
      | some tag =>
          let shown := Text.withoutHalves tag.display
          let unknown := fail (.unknownTag "operator" shown operatorNames) (.record fields)
          match tag with
          | .text name =>
              match Comparison.ofName? name, Membership.ofName? name with
              | some operator, _ => (checkCompare operator fields).under (.field name)
              | none, some operator => (checkMember operator fields).under (.field name)
              | none, none => unknown
          | _ => unknown
  | v => fail .notAttributes v

end Condition

end Countersign
