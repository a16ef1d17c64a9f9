/-
Module: Countersign.Rule.FieldCatalog
Purpose: The facts that rule authors choose from, and conditions and rules in words.
Main exports: FieldDefinition, FieldCategory, FieldCatalog.categories, FieldCatalog.find?,
  FieldCatalog.operatorLabel, Condition.describe, Rule.describe
-/
import Countersign.Rule.Basic
import Countersign.Json.Writer

namespace Countersign

/-- A fact that is offered to rule authors. -/
structure FieldDefinition where
  name : String
  label : String
  kind : String
  operators : List String
  choices : Option (List String) := none
deriving DecidableEq, Repr

namespace FieldDefinition

/-- The kinds of facts. -/
def kinds : List String := ["text", "number", "enum", "boolean"]

def check (fields : Fields) : Checked FieldDefinition :=
  FieldDefinition.mk
    <$> fields.required "name" Reader.text
    <*> fields.required "label" Reader.text
    <*> fields.required "field_type" (Reader.choice (kinds.map fun kind => (kind, kind)))
    <*> fields.required "operators" Reader.texts
    <*> fields.optional "enum_values" none (Reader.nullable Reader.texts)

def value (field : FieldDefinition) : Value :=
  .record [("name", .text field.name), ("label", .text field.label),
    ("field_type", .text field.kind), ("operators", .ofTexts field.operators),
    ("enum_values", match field.choices with
      | some choices => .ofTexts choices
      | none => .null)]

end FieldDefinition

/-- A group of related facts. -/
structure FieldCategory where
  name : String
  label : String
  description : String
  fields : List FieldDefinition
deriving DecidableEq, Repr

namespace FieldCategory

def names : List String := ["pricing", "payment", "counterparty", "volume", "custom"]

def check (fields : Fields) : Checked FieldCategory :=
  FieldCategory.mk
    <$> fields.required "category" (Reader.choice (names.map fun name => (name, name)))
    <*> fields.required "label" Reader.text
    <*> fields.required "description" Reader.text
    <*> fields.required "fields"
      (Reader.items (Reader.model "FieldDefinition" FieldDefinition.check))

def value (category : FieldCategory) : Value :=
  .record [("category", .text category.name), ("label", .text category.label),
    ("description", .text category.description),
    ("fields", .list (category.fields.map FieldDefinition.value))]

end FieldCategory

namespace FieldCatalog

def choiceOperators : List String := ["equals", "not_equals", "in", "not_in", "is_one_of"]

def equalityOperators : List String := ["equals", "not_equals"]

def numberOperators : List String :=
  ["equals", "not_equals", "greater_than", "less_than", "greater_or_equal", "less_or_equal"]

def number (name label : String) : FieldDefinition := ⟨name, label, "number", numberOperators, none⟩

def text (name label : String) : FieldDefinition := ⟨name, label, "text", equalityOperators, none⟩

/-- A field whose values are chosen from a list, by any operator. -/
def chosen (name label : String) (choices : List String) : FieldDefinition :=
  ⟨name, label, "enum", choiceOperators, some choices⟩

/-- A field whose values are chosen from a list, by equality only. -/
def exact (name label : String) (choices : List String) : FieldDefinition :=
  ⟨name, label, "enum", equalityOperators, some choices⟩

def pricing : FieldCategory :=
  { name := "pricing"
    label := "Pricing Rules"
    description := "Rules based on pricing type, fixation method, or LME requirements"
    fields := [
      chosen "pricing_type" "Pricing Type" ["Fixed", "Formula", "Index"],
      exact "lme_action_needed" "LME Action Needed" ["Yes", "No"],
      ⟨"formula_b2b_lme", "Formula B2B deal needing LME action", "boolean", equalityOperators, none⟩,
      chosen "fixation_method" "Fixation Method" ["1-day", "5-day avg", "Month avg", "Custom"],
      number "price" "Price",
      number "signed_price" "Signed Price"] }

def payment : FieldCategory :=
  { name := "payment"
    label := "Payment Terms"
    description := "Rules based on payment triggers, timing, or down payment terms"
    fields := [
      chosen "payment_trigger_event" "Payment Trigger Event"
        ["ATA", "BL confirmed", "BL issuance", "BL release", "Booking", "Customs Clearance",
          "Delivery Note Issued (CMR)", "DP (documents against payment)", "ETA",
          "ETD (vessel departure)", "Fixation", "Inspection", "Invoice", "Loading",
          "Other - custom", "Sales Order Signed Date", "Seal"],
      exact "payment_trigger_timing" "Payment Trigger Timing" ["Before", "After"],
      text "payment_trigger_combined" "Payment Trigger (Event + Timing)",
      number "down_payment_amount_percent" "Down Payment %"] }

def counterparty : FieldCategory :=
  { name := "counterparty"
    label := "Counterparty Rules"
    description := "Rules based on company KYB status or risk rating"
    fields := [
      chosen "company_kyb_status" "Company KYB Status" ["Approved", "Rejected", "Needs Review"],
      text "company_risk_rating" "Company Risk Rating"] }

def volume : FieldCategory :=
  { name := "volume"
    label := "Volume & Quantity"
    description := "Rules based on trade quantities or volumes"
    fields := [number "quantity" "Quantity (MT)", number "signed_volume" "Signed Volume"] }

def custom : FieldCategory :=
  { name := "custom"
    label := "Custom Rule"
    description := "Build a custom rule with any field and condition"
    fields := [
      exact "transaction_type" "Transaction Type" ["B2B", "Warehouse"],
      chosen "commodity_type" "Commodity Type"
        ["Aluminium", "Mixed metals", "Zinc", "Magnesium", "Lead", "Nickel/stainless/hi-temp",
          "Copper", "Brass", "Steel", "Iron"],
      chosen "incoterms" "Incoterms"
        ["CFR", "CIF", "CIP", "CPT", "DAP", "DDP", "DPU", "EWX", "FAS", "FCA", "FOB"]] }

/-- The catalog, in the order in which it is shown. -/
def categories : List FieldCategory := [pricing, payment, counterparty, volume, custom]

/-- The first field of a name. -/
def find? (name : String) : Option FieldDefinition :=
  (categories.flatMap (·.fields)).find? (·.name == name)

/-- The operators in words. -/
def operatorLabels : List (String × String) :=
  [("equals", "equals"), ("not_equals", "does not equal"), ("greater_than", "greater than"),
    ("less_than", "less than"), ("greater_or_equal", "greater than or equal to"),
    ("less_or_equal", "less than or equal to"), ("in", "is one of"), ("is_one_of", "is one of"),
    ("not_in", "is not one of")]

/-- An operator in words, or as it is when it has none. -/
def operatorLabel (operator : String) : String := (operatorLabels.lookup operator).getD operator

/-- The label of a field, or its name when the catalog does not have it. -/
def fieldLabel (name : String) : String :=
  match find? name with
  | some field => field.label
  | none => name

def value : Value :=
  .record [("categories", .list (categories.map FieldCategory.value)),
    ("operators", .record (operatorLabels.map fun (name, label) => (name, .text label)))]

end FieldCatalog

open FieldCatalog

/-- A condition in words. -/
def Condition.describe : Condition → String
  | compare field operator operand =>
      s!"{fieldLabel field} {operatorLabel operator.name} {operand.value.display}"
  | member field operator operands =>
      s!"{fieldLabel field} {operatorLabel operator.name} "
        ++ Json.write Json.spaced (.list (operands.map Scalar.value))

/-- Why a loose condition has no words: it lacks a part, or its operator is a list or a record. -/
inductive LooseFault where
  | absentPart
  | compoundOperator
deriving DecidableEq, Repr

namespace LooseCondition

def part (condition : LooseCondition) (name : String) : Except LooseFault Value :=
  match condition.parts.get? name with
  | some v => .ok v
  | none => .error .absentPart

/-- A loose condition in words. -/
def describe (condition : LooseCondition) : Except LooseFault String := do
  let label := match ← condition.part "field" with
    | .text name => fieldLabel name
    | other => other.display
  let operator ← match ← condition.part "operator" with
    | .text name => pure (operatorLabel name)
    | .list _ => throw .compoundOperator
    | .record _ => throw .compoundOperator
    | other => pure other.display
  let operand ←
    if condition.isMember then (Json.write Json.spaced) <$> condition.part "values"
    else Value.display <$> condition.part "value"
  pure s!"{label} {operator} {operand}"

end LooseCondition

/-- The conditions of a rule in words, joined by its combinator. -/
def Rule.describe (rule : Rule) : String :=
  (s!" {rule.combinator.name} ").intercalate (rule.conditions.map Condition.describe)

end Countersign
