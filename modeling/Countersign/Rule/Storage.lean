/-
Module: Countersign.Rule.Storage
Purpose: The rules in the store.
Main exports: RuleStore.add, RuleStore.addAll, RuleStore.find?, RuleStore.get,
  RuleStore.findByName?, RuleStore.update, RuleStore.remove, RuleStore.list, RuleStore.count
-/
import Countersign.Service.Basic
import Countersign.Rule.Basic

namespace Countersign.RuleStore

open Service

/-!
A stored document that is no rule any more is noted and passed over: it never triggers, and nothing else
fails because of it.
-/

def tagged (id : Value) : Fields := [("rule_id", id)]

def withId (id : Value) : Query := Query.field "rule_id" id

def withName (name : Value) : Query := Query.field "name" name

/-- The rule that a stored document is, if it is one. -/
def read? (document : Document) : Service (Option Rule) := do
  match Rule.check document with
  | .accepted rule => return some rule
  | .refused faults =>
      let id := Fields.getD document "rule_id"
      note .error .ruleStore
        s!"Corrupted approval rule {id.display} skipped: {faults.length} fault(s)" [("rule_id", id)]
      return none

/-- Add a rule. -/
def add (rule : Rule) : Service Rule := do
  if ← insert .rules rule.document then
    note .info .ruleStore s!"Created approval rule: {rule.name}" (tagged (.text rule.id))
    return rule
  else refuse (.ruleNameTaken (.text rule.name) none)

/-- Add rules one after the other; the first whose keys are taken ends it. -/
def insertAll : List Rule → Service Unit
  | [] => return
  | rule :: rest => do
      if ← insert .rules rule.document then insertAll rest else throw .bulkKeyTaken

/-- Add several rules. -/
def addAll (rules : List Rule) : Service (List Rule) := do
  if rules.isEmpty then return []
  insertAll rules
  note .info .ruleStore s!"Created {rules.length} approval rules"
  return rules

/-- The rule of an id. -/
def find? (id : Value) : Service (Option Rule) := do
  match ← findOne .rules (withId id) with
  | some document => read? document
  | none => return none

def get (id : Value) : Service Rule := do
  match ← find? id with
  | some rule => return rule
  | none => refuse (.ruleMissing id)

/-- The rule of a name. -/
def findByName? (name : Value) : Service (Option Rule) := do
  match ← findOne .rules (withName name) with
  | some document => read? document
  | none => return none

/-- Give fields of a rule, or parts of them that paths lead to, new values. -/
def update (id : Value) (updates : Fields) : Service Rule := do
  let updates := updates.put "updated_at" (.moment (← now))
  match ← attempt (Service.update .rules (withId id) (Change.assignAll [("rule_id", id.stored)] updates)) with
  | .error (.store .keyTaken) => refuse (.ruleNameTaken (updates.getD "name") none)
  | .error failure => throw failure
  | .ok none => refuse (.ruleMissing id)
  | .ok (some document) =>
      note .info .ruleStore s!"Updated approval rule: {id.display}" (tagged id)
      match ← read? document with
      | some rule => return rule
      | none => refuse (.ruleUnreadable id)

/-- Remove a rule. Requests that it triggered stay as they are. -/
def remove (id : Value) : Service Unit := do
  if ← Service.remove .rules (withId id) then
    note .info .ruleStore s!"Deleted approval rule: {id.display}" (tagged id)
  else refuse (.ruleMissing id)

/-- The rules among documents. -/
def readAll : List Document → Service (List Rule)
  | [] => return []
  | document :: rest => do
      let found ← read? document
      let others ← readAll rest
      return found.toList ++ others

/-- The query for all rules, or for the enabled ones. -/
def wanted (enabledOnly : Bool) : Query :=
  if enabledOnly then Query.field "is_enabled" (.bool true) else Query.all

/-- The rules by priority and id. -/
def list (enabledOnly : Bool) : Service (List Rule) := do
  readAll (← select .rules (wanted enabledOnly) [⟨"priority", false⟩, ⟨"rule_id", false⟩])

def count : Service Nat := Service.count .rules Query.all

end Countersign.RuleStore
