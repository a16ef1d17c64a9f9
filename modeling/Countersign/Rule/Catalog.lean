/-
Module: Countersign.Rule.Catalog
Purpose: The commands of rule authors.
Main exports: RuleCatalog.create, RuleCatalog.update, RuleCatalog.toggle, RuleCatalog.remove,
  RuleCatalog.seed, RuleCatalog.defaultRules
-/
import Countersign.Rule.Storage
import Countersign.Rule.Draft

namespace Countersign.RuleCatalog

open Service

/-- What an author sends for a new rule. -/
structure NewRule where
  name : Value
  approvers : Value
  conditions : Value
  combinator : Value := .text Combinator.all.name
  description : Value := .null
  priority : Value := .int Rule.defaultPriority
  enabled : Value := .bool true
deriving Repr

/-- The rule that a draft describes, or the failure of the command. -/
def build (draft : Fields) : Service Rule :=
  match RuleDraft.build draft with
  | .ok rule => return rule
  | .error failure => throw failure

/-- Refuse a name that another rule has. -/
def ensureNameFree (name : String) (ownId : Option Value) : Service Unit := do
  match ← RuleStore.findByName? (.text name) with
  | some holder =>
      if ownId.any (Value.same (.text holder.id)) then return
      else refuse (.ruleNameTaken (.text name) (some holder.id))
  | none => return

/-- The draft of a new rule with an id and a time. -/
def NewRule.draft (rule : NewRule) (id : String) (time : Moment) : Fields :=
  [("rule_id", .text id), ("name", rule.name), ("description", rule.description),
    ("priority", rule.priority), ("is_enabled", rule.enabled), ("combinator", rule.combinator),
    ("conditions", rule.conditions), ("required_approvers", rule.approvers),
    ("created_at", .moment time), ("updated_at", .moment time)]

/-- Create a rule. -/
def create (sent : NewRule) : Service Rule := do
  let time ← now
  let id ← newId "RULE"
  let rule ← build (sent.draft id time)
  ensureNameFree rule.name none
  RuleStore.add rule

/-- The fields that an author may change. -/
def changeable : List String :=
  ["name", "description", "priority", "is_enabled", "combinator", "conditions", "required_approvers"]

/-- Texts in the order of their characters. -/
def sorted (texts : List String) : List String := texts.mergeSort Text.upTo

/-- The names that updates have, and the updates. What is no record has names too, but nothing to update. -/
def namesAndUpdates : Value → Except Failure (List String × Fields)
  | .record fields => .ok (Fields.names fields, fields)
  | v => do
      let names ← (← RuleDraft.membersOf v).mapM fun member =>
        match member with
        | .text name => .ok name
        | _ => .error .notUsable
      return (Requirements.distinct names, [])

/-- Change a rule. The changed rule is checked as a whole before anything is stored. -/
def update (id updates : Value) : Service Rule := do
  let current ← RuleStore.get id
  match namesAndUpdates updates with
  | .error failure => throw failure
  | .ok (names, updates) =>
      let fixed := names.filter fun name => !changeable.contains name
      if !fixed.isEmpty then refuse (.ruleFieldsFixed (sorted fixed))
      if updates.isEmpty && !names.isEmpty then throw .notUsable
      let rule ← build (current.fields.putAll updates)
      if rule.name ≠ current.name then ensureNameFree rule.name (some id)
      RuleStore.update id (rule.body.filter fun (name, _) => updates.has name)

/-- Enable a disabled rule, or disable an enabled one. -/
def toggle (id : Value) : Service Rule := do
  let current ← RuleStore.get id
  update id (.record [("is_enabled", .bool !current.enabled)])

def remove (id : Value) : Service Unit := RuleStore.remove id

/-- A rule that an empty catalog is filled with. -/
structure DefaultRule where
  name : String
  description : String
  priority : Int
  combinator : Combinator
  conditions : List Condition
  approvers : List String

def defaultRules : List DefaultRule := [
  { name := "Non-standard pricing detected"
    description := "Payment is triggered by an event outside the standard set"
    priority := 1
    combinator := .any
    conditions := [
      .member "payment_trigger_event" .isIn
        [.text "Inspection", .text "BL release", .text "Customs Clearance"],
      .compare "payment_trigger_combined" .equals (.text "ATA_After")]
    approvers := ["Hedging", "CFO"] },
  { name := "Deal requires hedge"
    description := "Index pricing, or formula B2B deals needing LME action"
    priority := 2
    combinator := .any
    conditions := [
      .compare "pricing_type" .equals (.text "Index"),
      .compare "formula_b2b_lme" .equals (.bool true)]
    approvers := ["Hedging", "CFO"] },
  { name := "Counterparty KYB not approved"
    description := "Counterparty has not passed KYB"
    priority := 3
    combinator := .all
    conditions := [.compare "company_kyb_status" .notEquals (.text "Approved")]
    approvers := ["Operations"] }]

/-- A default rule with an id and a time. -/
def DefaultRule.rule (rule : DefaultRule) (id : String) (time : Moment) : Rule :=
  { id, name := rule.name, description := some rule.description, priority := rule.priority,
    enabled := true, combinator := rule.combinator, conditions := rule.conditions,
    approvers := rule.approvers, createdAt := time, updatedAt := time }

/-- Default rules with new ids. -/
def numbered (time : Moment) : List DefaultRule → Service (List Rule)
  | [] => return []
  | rule :: rest => do
      let id ← newId "RULE"
      let others ← numbered time rest
      return rule.rule id time :: others

/-- Fill an empty catalog with the default rules, and give those that were created. -/
def seed : Service (List Rule) := do
  if 0 < (← RuleStore.count) then
    note .info .ruleCatalog "Approval rules already exist, skipping default seed"
    return []
  let time ← now
  let created ← RuleStore.addAll (← numbered time defaultRules)
  note .info .ruleCatalog s!"Seeded {created.length} default approval rules"
  return created

end Countersign.RuleCatalog
