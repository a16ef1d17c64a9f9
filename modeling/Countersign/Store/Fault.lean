/-
Module: Countersign.Store.Fault
Purpose: Why the store refuses a filter, a document or a change.
Main exports: FilterFault, FilterFault.message, StoreFault, StoreFault.message, Value.storeFault?
-/
import Countersign.Value.Display
import Countersign.Text.PatternReader
import Countersign.Number.Word

namespace Countersign

/-- Why an operation of a term does not take what it is given. -/
inductive TermFault where
  /-- What is given to an operation on two numbers is no list. -/
  | operandsNotList (operation : String) (given : Value)
  /-- An operation on two numbers is not given two. -/
  | notTwo (operation : String)
  /-- An operation is not given as many terms as it takes. -/
  | notSoMany (operation : String) (count : Nat)
  | switchNotRecord (given : Value)
  | branchesNotList (given : Value)
  | noBranches
  | branchNotRecord (given : Value)
  | branchWithoutCase
  | branchWithoutThen
  | noBranchTaken
  | notLists (given : Value)
  | sizeOfSeveral (count : Nat)
  | sizeOfNoList (given : Value)
  | sliceNotList
  | sliceCount (count : Nat)
  | sliceOfNoList (given : Value)
  | sliceArgument (place : String) (given : Value)
  | sliceLength (given : Int)
  /-- The parts of an operation are no record. -/
  | notPartsOf (operation : String)
  | unknownPart (operation name : String)
  | missingPart (operation name : String)
  | mapOfNoList (given : Value)
  | namesNotRecord
  | patternNotRecord (given : Value)
  | patternPart (name : String)
  | patternArgument (name : String)
  | patternOption (letter : String)
  | inputNotText
  | patternNotText
  | notPairs
  | recordOfNoList (given : Value)
  | pairsOfNoRecord (given : Value)
deriving Repr

namespace TermFault

/-- What a fault of a term says. -/
def message : TermFault → String
  | operandsNotList operation given =>
      s!"Parameter to {operation} must evaluate to a list, got '{given.kindName}'"
  | notTwo operation => operation ++ " must have only 2 parameters"
  | notSoMany operation count => s!"{operation} must have {count} items"
  | switchNotRecord given =>
      "$switch requires an object as an argument, found: " ++ given.kindName
  | branchesNotList given =>
      "$switch expected an array for 'branches', found: " ++ given.kindName
  | noBranches => "$switch requires at least one branch."
  | branchNotRecord given =>
      "$switch expected each branch to be an object, found: " ++ given.kindName
  | branchWithoutCase => "$switch requires each branch have a 'case' expression"
  | branchWithoutThen => "$switch requires each branch have a 'then' expression."
  | noBranchTaken =>
      "$switch could not find a matching branch for an input, and no default was specified."
  | notLists given => "$concatArrays only supports arrays, not " ++ given.kindName
  | sizeOfSeveral count =>
      s!"Expression $size takes exactly 1 arguments. {count} were passed in."
  | sizeOfNoList given =>
      "The argument to $size must be an array, but was of type: " ++ given.kindName
  | sliceNotList => "$slice only supports a list as its argument"
  | sliceCount count =>
      "Expression $slice takes at least 2 arguments, and at most 3, but "
        ++ s!"{count} were passed in"
  | sliceOfNoList given =>
      "First argument to $slice must be an array, but is of type: " ++ given.kindName
  | sliceArgument place given =>
      s!"{place} argument to $slice must be numeric, but is of type: " ++ given.kindName
  | sliceLength given => s!"Third argument to $slice must be positive: {given}"
  | notPartsOf operation => operation ++ " only supports an object as its argument"
  | unknownPart operation name => s!"Unrecognized parameter to {operation}: {name}"
  | missingPart operation name => s!"Missing '{name}' parameter to {operation}"
  | mapOfNoList given => "input to $map must be an array not " ++ given.kindName
  | namesNotRecord => "invalid parameter: expected an object (vars)"
  | patternNotRecord given =>
      "$regexMatch expects an object of named arguments but found: " ++ given.kindName
  | patternPart name => s!"$regexMatch requires '{name}' parameter"
  | patternArgument name => "$regexMatch found an unknown argument: " ++ name
  | patternOption letter => "$regexMatch invalid flag in regex options: " ++ letter
  | inputNotText => "$regexMatch needs 'input' to be of type string"
  | patternNotText => "$regexMatch needs 'regex' to be of type string or regex"
  | notPairs =>
      "arrays used with $arrayToObject must contain documents with k and v fields or "
        ++ "two-element arrays"
  | recordOfNoList given => "$arrayToObject requires an array input, found: " ++ given.kindName
  | pairsOfNoRecord given => "$objectToArray requires an object input, found: " ++ given.kindName

end TermFault

/-- Why a filter cannot be applied. -/
inductive FilterFault where
  /-- A comparison of this name is not known. -/
  | unknownComparison (name : String)
  /-- Filters are joined under a name that is not known. -/
  | unknownJunction (name : String)
  /-- No filters are joined. -/
  | emptyJunction
  /-- A filter is no record. -/
  | notRecord
  /-- A comparison needs a list. -/
  | needsList (comparison : String)
  /-- A comparison needs a record. -/
  | needsRecord (comparison kinds : String)
  /-- The options of a pattern are no text. -/
  | optionsNotText
  /-- A text is no pattern. -/
  | notPattern (fault : Text.Pattern.Fault)
  /-- There is no kind of a name. -/
  | unknownKind (given : Value)
  /-- What should be gone through one by one is a single thing. -/
  | notUsable
  /-- A thing is asked for a part that things of its kind do not have. -/
  | partless
  /-- The store knows a comparison but cannot make it. -/
  | notSupported
  /-- A list has no place so far in front of its end. -/
  | placeMissing
  /-- A term stands for a field that is missing. -/
  | fieldMissing
  /-- A term has more than one name. -/
  | namesMixed (fields : Fields)
  /-- There is no term of a name. -/
  | unknownTerm (name : String)
  /-- An operation is given terms of a number or a kind that it does not take. -/
  | badTerms
  /-- An operation does not take what it is given, and says why. -/
  | term (fault : TermFault)
  /-- There are more or fewer things than there are places for them. -/
  | wrongCount (expected given : Nat)
  /-- A choice has neither a list nor a record of branches. -/
  | notSet
  /-- A number is divided by zero. -/
  | zeroDivisor
  /-- What is no number is to be a whole one. -/
  | notNumber
  /-- A remainder is not defined. -/
  | notDefined
  /-- A text is to be split where nothing stands. -/
  | emptySeparator
  /-- A text spells no whole number. -/
  | notWhole (given : String)
  /-- A number is beyond the largest double. -/
  | tooLarge
deriving Repr

namespace FilterFault

/-- What a fault of a filter says. -/
def message : FilterFault → String
  | unknownComparison name => "unknown operator: " ++ name
  | unknownJunction name => "unknown top level operator: " ++ name
  | emptyJunction => "BadValue $and/$or/$nor must be a nonempty array"
  | notRecord => "the match filter must be an expression in an object"
  | needsList comparison => comparison ++ " needs an array"
  | needsRecord comparison kinds => comparison ++ " needs " ++ kinds
  | optionsNotText => "$options has to be a string"
  | unknownKind given => given.literal ++ " is not a valid $type"
  | namesMixed fields =>
      "an expression specification must contain exactly one field, the name of the expression. Found "
        ++ s!"{fields.length} fields in {(Value.record fields).display}"
  | unknownTerm name => "Unrecognized expression '" ++ name ++ "'"
  | term fault => fault.message
  | wrongCount expected given =>
      if given < expected then s!"not enough values to unpack (expected {expected}, got {given})"
      else s!"too many values to unpack (expected {expected})"
  | notNumber => "cannot convert float NaN to integer"
  | notDefined => "math domain error"
  | emptySeparator => "empty separator"
  | notWhole given => "invalid literal for int() with base 10: " ++ Text.quoted given
  | _ => ""

/-- Whether the store itself tells of a fault. -/
def isStorage : FilterFault → Bool
  | unknownComparison _ | unknownJunction _ | emptyJunction | notRecord | needsList _ => true
  | needsRecord .. | optionsNotText | unknownKind _ | namesMixed _ | unknownTerm _ | term _ => true
  | _ => false

end FilterFault

/-- Why the store refuses a document or a change of one. -/
inductive StoreFault where
  /-- A filter cannot be applied. -/
  | filter (fault : FilterFault)
  /-- Another document has a key that no two share. -/
  | keyTaken
  /-- A number has more than 64 bits, or a moment is beyond the calendar. -/
  | tooLarge
  /-- A name or a value is of a kind that the store does not keep. -/
  | notStorable
  /-- A text has no form in bytes. -/
  | notEncodable
  /-- A list is no identity, and what is no number cannot be added to. -/
  | notUsable
  /-- A change would give a document another identity. -/
  | identityFixed (given : Value)
  /-- A place in a list is below zero. -/
  | placeNegative
  /-- A list has no such place. -/
  | placeMissing
  /-- A text is no place in a list. -/
  | notPlace (given : String)
  /-- A record lacks a field that a change goes through. -/
  | fieldMissing
  /-- A change goes by a part of the filter that has no parts. -/
  | partless
deriving Repr

namespace StoreFault

/-- What a fault says. -/
def message : StoreFault → String
  | filter fault => fault.message
  | keyTaken => "E11000 Duplicate Key Error"
  | identityFixed given =>
      "After applying the update, the (immutable) field '_id' was found to have been altered to _id: "
        ++ given.display
  | placeNegative => "Negative index provided"
  | notPlace given => "invalid literal for int() with base 10: " ++ Text.quoted given
  | _ => ""

/-- Whether the store speaks of itself, and not of what it was given. -/
def isStorage : StoreFault → Bool
  | filter fault => fault.isStorage
  | keyTaken | identityFixed _ | placeNegative => true
  | _ => false

end StoreFault

namespace Value

/-- Why the store does not keep a name, if it does not. -/
def nameFault? (name : String) : Option StoreFault :=
  if Text.hasHalf name then some .notEncodable
  else if name.toList.contains '\x00' then some .notStorable
  else none

mutual

/-- Why the store does not keep a value, if it does not: the first reason in it. -/
def storeFault? : Value → Option StoreFault
  | .int n => if fitsWord n then none else some .tooLarge
  | .text s => if Text.hasHalf s then some .notEncodable else none
  | .date _ => some .notStorable
  | .moment m => if m.leavesCalendar then some .tooLarge else none
  | .list items => itemsStoreFault? items
  | .record fields => fieldsStoreFault? fields
  | _ => none

def itemsStoreFault? : List Value → Option StoreFault
  | [] => none
  | v :: rest => v.storeFault?.or (itemsStoreFault? rest)

def fieldsStoreFault? : List (String × Value) → Option StoreFault
  | [] => none
  | (name, v) :: rest => ((nameFault? name).or v.storeFault?).or (fieldsStoreFault? rest)

end

end Value

end Countersign
