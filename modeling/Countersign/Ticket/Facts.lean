/-
Module: Countersign.Ticket.Facts
Purpose: The flat record of facts that rules look at, built from a ticket.
Main exports: normalizeYesNo, Ticket.facts
-/
import Countersign.Ticket.Basic
import Countersign.Text.Blank
import Countersign.Text.LetterCase
import Countersign.Value.Display

namespace Countersign

/-!
The scalars among a ticket's fields are facts, dates and moments as text; nulls, lists and records are
none. The answers to yes-or-no fields and the type of the transaction are brought to one spelling.
Then the derived facts are put over what fields of the same names may have said.
-/

/-- The spelling of a truth. -/
def yesNo (b : Bool) : Value := .text (if b then "Yes" else "No")

/-- The answer to a yes-or-no field as `Yes` or `No`, and what is neither as it is. -/
def normalizeYesNo (v : Value) : Value :=
  match v with
  | .bool b => yesNo b
  | .int n => if n = 1 then yesNo true else if n = 0 then yesNo false else v
  | .float x => if x.eqInt 1 then yesNo true else if x.eqInt 0 then yesNo false else v
  | .text s =>
      let word := Text.lower (Text.strip s)
      if ["yes", "true", "1"].contains word then yesNo true
      else if ["no", "false", "0"].contains word then yesNo false
      else v
  | _ => v

/-- The fact that a field of a ticket is, if any. -/
def fieldFact? : Value → Option Value
  | .bool b => some (.bool b)
  | .int n => some (.int n)
  | .float x => some (.float x)
  | .text s => some (.text s)
  | .date d => some (.text d.text)
  | .moment m => some (.text m.fullText)
  | _ => none

namespace Ticket

/-- The facts that the fields of a ticket are. -/
def copiedFacts (fields : Fields) : Fields :=
  fields.filterMap fun (name, v) => (fieldFact? v).map fun fact => (name, fact)

/-- Change a fact if it is there. -/
def adjust (name : String) (f : Value → Value) (facts : Fields) : Fields :=
  match facts.get? name with
  | some v => facts.put name (f v)
  | none => facts

/-- The type of a transaction without blanks at its ends and in capitals. -/
def normalizeType : Value → Value
  | .text s => .text (Text.upper (Text.strip s))
  | v => v

/-- The event and the timing of a payment trigger as one fact, when both are given. -/
def withTrigger (facts : Fields) : Fields :=
  match facts.get? "payment_trigger_event", facts.get? "payment_trigger_timing" with
  | some event, some timing =>
      if event.truthy && timing.truthy then
        facts.put "payment_trigger_combined" (.text s!"{event.display}_{timing.display}")
      else facts
  | _, _ => facts

/-- A text of the company as a fact, when it is not empty. -/
def withCompanyText (name : String) (found : Option String) (facts : Fields) : Fields :=
  match found with
  | some s => if s.isEmpty then facts else facts.put name (.text s)
  | none => facts

/-- The facts that the company of a ticket gives. -/
def withCompany (company : Option Company) (facts : Fields) : Fields :=
  match company with
  | some company =>
      withCompanyText "company_risk_rating" company.riskRating
        (withCompanyText "company_kyb_status" company.kybStatus facts)
  | none => facts

/-- Whether a fact is a given text. -/
def isText (facts : Fields) (name expected : String) : Bool :=
  match facts.get? name with
  | some (.text s) => s == expected
  | _ => false

/-- Whether the facts tell of a back-to-back deal with formula pricing that needs action on the metal
exchange. -/
def isFormulaDeal (facts : Fields) : Bool :=
  isText facts "pricing_type" "Formula" && isText facts "transaction_type" "B2B"
    && isText facts "lme_action_needed" "Yes"

/-- The facts of a ticket. -/
def facts (ticket : Ticket) : Fields :=
  let copied := adjust "transaction_type" normalizeType
    (adjust "lme_action_needed" normalizeYesNo (copiedFacts ticket.fields))
  let found := withCompany ticket.company (withTrigger copied)
  found.put "formula_b2b_lme" (.bool (isFormulaDeal found))

end Ticket

end Countersign
