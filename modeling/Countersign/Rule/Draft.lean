/-
Module: Countersign.Rule.Draft
Purpose: Building a rule from what an author sent.
Main exports: RuleDraft.build
-/
import Countersign.Rule.Basic
import Countersign.Problem.Refusal
import Countersign.Rule.Requirements
import Countersign.Text.Blank

namespace Countersign.RuleDraft

/-!
A draft has the fields of a rule, each of any kind. The name and the roles lose the blanks at their
ends, roles that are empty then are dropped, and a role that comes twice counts once. The checks come in
a fixed order: name, roles, conditions, then the need for conditions, then the rule as a whole.
-/

/-- The members of a value that is gone through one by one. -/
def membersOf : Value → Except Failure (List Value)
  | .list items => .ok items
  | .text s => .ok ((Text.letters s).map .text)
  | .record fields => .ok (fields.map fun (name, _) => .text name)
  | _ => .error .notUsable

/-- The members of a field, none when the field is not given. -/
def membersIn (draft : Fields) (name : String) : Except Failure (List Value) :=
  let v := draft.getD name
  if v.truthy then membersOf v else .ok []

/-- The name without the blanks at its ends. -/
def nameOf (draft : Fields) : Except Failure String :=
  let v := draft.getD "name"
  if !v.truthy then .ok ""
  else match v with
    | .text s => .ok (Text.strip s)
    | _ => .error .notText

/-- A role without the blanks at its ends, nothing when none is given. -/
def roleOf? (v : Value) : Except Failure (Option String) :=
  if !v.truthy then .ok none
  else match v with
    | .text s =>
        let role := Text.strip s
        .ok (if role.isEmpty then none else some role)
    | _ => .error .notText

/-- The roles among values. -/
def rolesAmong : List Value → Except Failure (List String)
  | [] => .ok []
  | v :: rest => do
      let role ← roleOf? v
      let others ← rolesAmong rest
      return role.toList ++ others

/-- The roles of a draft, each once. -/
def rolesOf (draft : Fields) : Except Failure (List String) := do
  return Requirements.distinct (← rolesAmong (← membersIn draft "required_approvers"))

def refuse {α : Type} (refusal : Refusal) : Except Failure α := .error (.refused refusal)

/-- The conditions of a draft. -/
def conditionsOf (name : String) (draft : Fields) : Except Failure (List Condition) := do
  match Reader.items Condition.check (.list (← membersIn draft "conditions")) with
  | .accepted conditions => return conditions
  | .refused faults => refuse (.ruleConditions name faults)

/-- Whether a draft asks for an enabled rule, which it does when it does not say. -/
def asksEnabled (draft : Fields) : Bool :=
  match draft.get? "is_enabled" with
  | some v => v.truthy
  | none => true

/-- The rule that a draft describes. -/
def build (draft : Fields) : Except Failure Rule := do
  let name ← nameOf draft
  if name.isEmpty then refuse .ruleNameMissing
  else
    let roles ← rolesOf draft
    if roles.isEmpty then refuse (.ruleWithoutRoles name)
    else
      let conditions ← conditionsOf name draft
      if asksEnabled draft && conditions.isEmpty then refuse (.ruleWithoutConditions name)
      else
        let whole := draft.putAll [("name", .text name), ("required_approvers", .ofTexts roles),
          ("conditions", .list (conditions.map Condition.value))]
        match Rule.check whole with
        | .accepted rule => return rule
        | .refused faults => refuse (.ruleDefinition name faults)

end Countersign.RuleDraft
