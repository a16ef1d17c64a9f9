/-
Module: Countersign.Rule.Requirements
Purpose: Which rules a record of facts triggers, and which roles those rules demand together.
Main exports: Rule.before, Rule.matching, Requirements, Requirements.check, Requirements.ofRules
-/
import Countersign.Rule.Basic
import Countersign.Value.Dump

namespace Countersign

/-!
All enabled rules are tried, none is skipped because another matched. The rules that hold come in the
order of priority and id. A role is demanded once, at its first place, and is attributed to every rule
that names it.
-/

namespace Rule

/-- Whether a rule comes no later than another: by priority, then by id. -/
def before (left right : Rule) : Bool :=
  left.priority < right.priority ||
    (left.priority == right.priority && Text.upTo left.id right.id)

/-- Whether a rule is enabled and its conditions hold. -/
def triggeredBy (facts : Fields) (rule : Rule) : Bool :=
  rule.enabled && rule.combinator.holds rule.conditions facts

/-- The rules in the order in which they are tried. -/
def ordered (rules : List Rule) : List Rule := rules.mergeSort before

/-- The rules that a record of facts triggers, in order. -/
def matching (rules : List Rule) (facts : Fields) : List Rule :=
  (ordered rules).filter (triggeredBy facts)

end Rule

/-- What stands between the names of rules in one text. -/
def ruleSeparator : String := " + "

/-- The roles that must approve, and the rules that demand them. -/
structure Requirements where
  approvers : List String
  ruleTriggered : String
  roleToRules : List (String × List String)
  matchedRuleIds : List String
deriving DecidableEq, Repr

namespace Requirements

/-- Put a name at the end of a list that does not hold it yet. -/
def addOnce (names : List String) (name : String) : List String :=
  if names.contains name then names else names ++ [name]

/-- The names without repetitions, each at its first place. -/
def distinct (names : List String) : List String := names.foldl addOnce []

/-- The names of the rules that demand a role. -/
def rulesOf (rules : List Rule) (role : String) : List String :=
  distinct ((rules.filter (·.approvers.contains role)).map (·.name))

/-- What triggered rules demand together. -/
def ofRules (rules : List Rule) : Requirements :=
  let roles := distinct (rules.flatMap (·.approvers))
  { approvers := roles
    ruleTriggered := ruleSeparator.intercalate (rules.map (·.name))
    roleToRules := roles.map fun role => (role, rulesOf rules role)
    matchedRuleIds := rules.map (·.id) }

/-- Whether any role must approve. -/
def requiresApproval (requirements : Requirements) : Bool := !requirements.approvers.isEmpty

def check (fields : Fields) : Checked Requirements :=
  Requirements.mk
    <$> fields.optional "required_approvers" [] Reader.texts
    <*> fields.optional "rule_triggered" "" Reader.text
    <*> fields.optional "role_to_rules" [] (Reader.entries Reader.texts)
    <*> fields.optional "matched_rule_ids" [] Reader.texts

/-- A record of lists of names. -/
def namesValue (entries : List (String × List String)) : Value :=
  .record (Dump.entries (entries.map fun (name, names) => (name, .ofTexts names)))

def value (requirements : Requirements) : Value :=
  .record [("required_approvers", .ofTexts requirements.approvers),
    ("rule_triggered", .text requirements.ruleTriggered),
    ("role_to_rules", namesValue requirements.roleToRules),
    ("matched_rule_ids", .ofTexts requirements.matchedRuleIds)]

end Requirements

end Countersign
