/-
Module: Countersign.Schema.Fault
Purpose: What is wrong with a value that does not fit its schema, and where.
Main exports: Step, FaultCause, FaultCause.code, FaultCause.message, FaultCause.context, Fault,
  Fault.report, Fault.fullReport
-/
import Countersign.Value.Basic
import Countersign.Calendar.Field
import Countersign.Text.Quoted

namespace Countersign

/-!
A fault names its cause, the way from the checked value to the part that does not fit, and that part.
The short report of a fault leaves out the numbers and names that its cause is about, the full report
gives them.
-/

/-- A step from a value to a part of it. -/
inductive Step where
  | field (name : String)
  | item (index : Nat)
deriving DecidableEq, Repr

def Step.value : Step → Value
  | field name => .text name
  | item index => .int index

/-- Why a value does not fit. -/
inductive FaultCause where
  | missing
  | extra
  | notText
  | halfText
  | notInt
  | notNumber
  | notBool
  | notMoment
  | notList
  | notRecord
  | notModel (name : String)
  | notAttributes
  | boolText
  | intText
  | intFraction
  | intSize
  | notFinite
  | numberText
  | dateText (reason : DateFault)
  | epoch (reason : EpochFault)
  | choice (expected : List String)
  | literal (expected : List String)
  | shortText (least : Nat)
  | longText (most : Nat)
  | fewItems (least actual : Nat)
  | below (least : Int)
  | above (most : Int)
  | unknownTag (discriminator tag : String) (expected : List String)
  | noTag (discriminator : String)
  | json (reason : String)
deriving DecidableEq, Repr

namespace FaultCause

def apostrophed (s : String) : String := "'" ++ s ++ "'"

/-- Names between apostrophes, `or` before the last. -/
def alternatives : List String → String
  | [] => ""
  | [name] => apostrophed name
  | [name, last] => apostrophed name ++ " or " ++ apostrophed last
  | name :: rest => apostrophed name ++ ", " ++ alternatives rest

def listed (names : List String) : String := ", ".intercalate (names.map apostrophed)

/-- A number of things, in words. -/
def counted (count : Nat) (thing : String) : String :=
  s!"{count} {thing}" ++ if count = 1 then "" else "s"

/-- The name of a cause. -/
def code : FaultCause → String
  | missing => "missing"
  | extra => "extra_forbidden"
  | notText => "string_type"
  | halfText => "string_unicode"
  | notInt => "int_type"
  | notNumber => "float_type"
  | notBool => "bool_type"
  | notMoment => "datetime_type"
  | notList => "list_type"
  | notRecord => "dict_type"
  | notModel _ => "model_type"
  | notAttributes => "model_attributes_type"
  | boolText => "bool_parsing"
  | intText => "int_parsing"
  | intFraction => "int_from_float"
  | intSize => "int_parsing_size"
  | notFinite => "finite_number"
  | numberText => "float_parsing"
  | dateText _ => "datetime_from_date_parsing"
  | epoch _ => "datetime_parsing"
  | choice _ => "enum"
  | literal _ => "literal_error"
  | shortText _ => "string_too_short"
  | longText _ => "string_too_long"
  | fewItems _ _ => "too_short"
  | below _ => "greater_than_equal"
  | above _ => "less_than_equal"
  | unknownTag _ _ _ => "union_tag_invalid"
  | noTag _ => "union_tag_not_found"
  | json _ => "json_invalid"

/-- What a cause says. -/
def message : FaultCause → String
  | missing => "Field required"
  | extra => "Extra inputs are not permitted"
  | notText => "Input should be a valid string"
  | halfText =>
      "Input should be a valid string, unable to parse raw data as a unicode string"
  | notInt => "Input should be a valid integer"
  | notNumber => "Input should be a valid number"
  | notBool => "Input should be a valid boolean"
  | notMoment => "Input should be a valid datetime"
  | notList => "Input should be a valid list"
  | notRecord => "Input should be a valid dictionary"
  | notModel name => "Input should be a valid dictionary or instance of " ++ name
  | notAttributes => "Input should be a valid dictionary or object to extract fields from"
  | boolText => "Input should be a valid boolean, unable to interpret input"
  | intText => "Input should be a valid integer, unable to parse string as an integer"
  | intFraction => "Input should be a valid integer, got a number with a fractional part"
  | intSize => "Unable to parse input string as an integer, exceeded maximum size"
  | notFinite => "Input should be a finite number"
  | numberText => "Input should be a valid number, unable to parse string as a number"
  | dateText reason => "Input should be a valid datetime or date, " ++ reason.message
  | epoch reason => "Input should be a valid datetime, " ++ reason.message
  | choice expected => "Input should be " ++ alternatives expected
  | literal expected => "Input should be " ++ alternatives expected
  | shortText least => "String should have at least " ++ counted least "character"
  | longText most => "String should have at most " ++ counted most "character"
  | fewItems least actual =>
      "List should have at least " ++ counted least "item" ++ s!" after validation, not {actual}"
  | below least => s!"Input should be greater than or equal to {least}"
  | above most => s!"Input should be less than or equal to {most}"
  | unknownTag discriminator tag expected =>
      "Input tag " ++ apostrophed tag ++ " found using " ++ apostrophed discriminator
        ++ " does not match any of the expected tags: " ++ listed expected
  | noTag discriminator =>
      "Unable to extract tag using discriminator " ++ apostrophed discriminator
  | json _ => "JSON decode error"

/-- The numbers and names that a cause is about. -/
def context : FaultCause → Fields
  | dateText reason => [("error", .text reason.message)]
  | epoch reason => [("error", .text reason.message)]
  | notModel name => [("class_name", .text name)]
  | choice expected => [("expected", .text (alternatives expected))]
  | literal expected => [("expected", .text (alternatives expected))]
  | shortText least => [("min_length", .int least)]
  | longText most => [("max_length", .int most)]
  | fewItems least actual =>
      [("field_type", .text "List"), ("min_length", .int least), ("actual_length", .int actual)]
  | below least => [("ge", .int least)]
  | above most => [("le", .int most)]
  | unknownTag discriminator tag expected =>
      [("discriminator", .text (apostrophed discriminator)), ("tag", .text tag),
        ("expected_tags", .text (listed expected))]
  | noTag discriminator => [("discriminator", .text (apostrophed discriminator))]
  | json reason => [("error", .text reason)]
  | _ => []

end FaultCause

/-- A part of a value that does not fit. -/
structure Fault where
  cause : FaultCause
  location : List Step
  input : Value
deriving Repr

namespace Fault

/-- The fault as seen one step further out. -/
def under (step : Step) (fault : Fault) : Fault := { fault with location := step :: fault.location }

/-- The fault without its context. -/
def report (fault : Fault) : Value :=
  .record [("type", .text fault.cause.code), ("loc", .list (fault.location.map Step.value)),
    ("msg", .text fault.cause.message), ("input", fault.input)]

/-- The fault with its context, when it has one. -/
def fullReport (fault : Fault) : Value :=
  let context := fault.cause.context
  .record ([("type", .text fault.cause.code), ("loc", .list (fault.location.map Step.value)),
    ("msg", .text fault.cause.message), ("input", fault.input)]
      ++ if context.isEmpty then [] else [("ctx", .record context)])

end Fault

end Countersign
