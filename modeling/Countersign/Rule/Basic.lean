/-
Module: Countersign.Rule.Basic
Purpose: Approval rules: a set of conditions and the roles that must approve where they hold.
Main exports: Rule, Rule.check, Rule.body, Rule.value, Rule.document
-/
import Countersign.Condition.Evaluation

namespace Countersign

/-- A rule of the catalog. Rules of lower priority come first. -/
structure Rule where
  id : String
  name : String
  description : Option String
  priority : Int
  enabled : Bool
  combinator : Combinator
  conditions : List Condition
  approvers : List String
  createdAt : Moment
  updatedAt : Moment
deriving DecidableEq, Repr

namespace Rule

/-- The most characters that a rule's name may have. -/
def maxName : Nat := 200

def defaultPriority : Int := 100

/-- Read a rule. Fields that a rule does not have are passed over. -/
def check (fields : Fields) : Checked Rule :=
  Rule.mk
    <$> fields.required "rule_id" Reader.text
    <*> fields.required "name" (Reader.boundedText 1 (some maxName))
    <*> fields.optional "description" none (Reader.nullable Reader.text)
    <*> fields.optional "priority" defaultPriority Reader.int
    <*> fields.optional "is_enabled" true Reader.bool
    <*> fields.optional "combinator" .all (Reader.choice Combinator.choices)
    <*> fields.optional "conditions" [] (Reader.items Condition.check)
    <*> fields.optional "required_approvers" [] Reader.texts
    <*> fields.required "created_at" Reader.moment
    <*> fields.required "updated_at" Reader.moment

/-- The rule without its times. -/
def body (rule : Rule) : Fields :=
  [("rule_id", .text rule.id), ("name", .text rule.name),
    ("description", .ofText? rule.description), ("priority", .int rule.priority),
    ("is_enabled", .bool rule.enabled), ("combinator", .text rule.combinator.name),
    ("conditions", .list (rule.conditions.map Condition.value)),
    ("required_approvers", .ofTexts rule.approvers)]

def fields (rule : Rule) : Fields :=
  rule.body ++ [("created_at", .moment rule.createdAt), ("updated_at", .moment rule.updatedAt)]

/-- The rule as a record. -/
def value (rule : Rule) : Value := .record rule.fields

/-- The rule as the store keeps it. -/
def document (rule : Rule) : Fields := rule.fields ++ [("_id", .text rule.id)]

end Rule

end Countersign
