/-
Module: Countersign.Store.Filter
Purpose: Filters of documents, which are records themselves.
Main exports: Query, Filter.reach, Filter.query, Query.all, Query.field
-/
import Countersign.Store.Document
import Countersign.Store.Term
import Countersign.Number.Numeral

namespace Countersign

/-!
A filter names fields by paths through records and lists and tells what each of them has to be: a value,
which the field or an item of it must be, or a record of comparisons, which are named by words behind a
`$`. Filters may be joined under such words too. A document meets a filter when all of its fields are as
they have to be. A filter is looked through in order and only as far as it has to be, so that what is
wrong further on stays unnoticed.
-/

/-- What is asked of a document. -/
abbrev Query := Document → Except FilterFault Bool

namespace Filter

/-- Whether a name is that of a comparison or a junction. -/
def isWord (name : String) : Bool := name.toList.head? == some '$'

/-- What a path leads to: of a record a field, of a list an item or a field of its items that are records.
Where a path does not go on, something is missing; but a list has no place in front of its first item. -/
def reach : List String → Value → Except FilterFault (List (Option Value))
  | [], v => .ok [some v]
  | name :: rest, v =>
      if name.isEmpty && rest.isEmpty then .ok [some v]
      else match v with
        | .record fields =>
            if rest.isEmpty then .ok [Fields.get? fields name]
            else reach rest ((Fields.get? fields name).getD (.record []))
        | .list items =>
            match Numeral.readInteger? name with
            | some place =>
                match Term.itemAt? items place with
                | some item => reach rest item
                | none => if place < 0 then .error .placeMissing else .ok [none]
            | none => do
                let found ← items.mapM fun item =>
                  match item with
                  | .record fields =>
                      match Fields.get? fields name with
                      | some v => reach rest v
                      | none => .ok [none]
                  | _ => .ok []
                return found.flatten
        | _ => .ok [none]

/-- What a path, its parts joined by points, leads to. -/
def reachBy (path : String) (v : Value) : Except FilterFault (List (Option Value)) :=
  reach (Text.pathParts path) v

/-- Whether something found is a value, or is missing where null is wanted. -/
def isValue (found : Option Value) (wanted : Value) : Bool :=
  match found with
  | some v => v.meets wanted
  | none => Value.null.same wanted

/-! ### Comparisons -/

/-- The items of a list, or else the value itself. -/
def spread : Option Value → List (Option Value)
  | some (.list items) => items.map some
  | found => [found]

/-- Whether a comparison with something that is no list is one with each item of a list. -/
def goesThrough (found : Option Value) (operand : Value) : Bool :=
  match found, operand with
  | some (.list _), .list _ => false
  | some (.list _), _ => true
  | _, _ => false

/-- Whether something found equals a value. -/
def equals (operand : Value) (found : Option Value) : Bool :=
  match found with
  | some v => v.same operand
  | none => Value.null.same operand

/-- Whether something found stands in one of some orders to a value of its kind. -/
def stands (orders : List Ordering) (operand : Value) (found : Option Value) : Bool :=
  match found with
  | some v =>
      v.kindRank == operand.kindRank && ((v.order? operand).map orders.contains).getD false
  | none => false

/-- Whether a test holds of something found or of one item of it. -/
def someOf (test : Option Value → Bool) (found : Option Value) (operand : Value) : Bool :=
  if goesThrough found operand then (spread found).any test else test found

/-- Whether a test holds of something found and of all items of it. -/
def allOf (test : Option Value → Bool) (found : Option Value) (operand : Value) : Bool :=
  if goesThrough found operand then (spread found).all test else test found

/-- Whether something found, or an item of it, is one of the values of a list. -/
def isMember (found : Option Value) : Value → Except FilterFault Bool
  | .list values =>
      .ok ((found.isNone && values.any (Value.null.same ·))
        || (spread found).any fun item => item.any fun v => values.any v.same)
  | _ => .error (.needsList "$in")

/-- The letters of options that there are. -/
def lettersOf : Option Value → Except FilterFault (List Char)
  | none => .ok []
  | some (.text options) => .ok (Text.Pattern.Manner.optionLetters options)
  | some _ => .error .optionsNotText

/-- Whether a pattern is found in a text, or in a text of a list. A pattern for something that is missing is not
looked at, unless options go with it. -/
def isPatternOf (options : Option Value) (found : Option Value) (operand : Value) :
    Except FilterFault Bool := do
  let letters ← lettersOf options
  if found.isNone && letters.isEmpty then return false
  match operand with
  | .text s =>
      match Text.Pattern.read (.ofLetters letters) s with
      | .ok pattern =>
          let texts := (spread found).filterMap fun item => item.bind Value.text?
          return texts.any pattern.isFoundIn
      | .error fault => throw (.notPattern fault)
  | _ => if letters.isEmpty then throw .notUsable else throw .partless

/-- How many things something found is, if that may be asked. -/
def sizeOf? : Option Value → Option Nat
  | some (.list items) => some items.length
  | some (.record fields) => some fields.length
  | some v => if v.truthy then some 1 else none
  | none => none

/-- A list of lists as one list, anything else as it is. -/
def flattened (found : Option Value) : Option Value :=
  match found with
  | some (.list items@(.list _ :: _)) =>
      some (.list (items.flatMap fun v => match v with | .list inner => inner | v => [v]))
  | found => found

/-- Whether a number is kept in a word of the shorter kind. -/
def isShort (n : Int) : Bool := n.natAbs < Nat.pow 2 32

/-- The kinds of values by name. There are no values of the last kinds. -/
def isOfKind? (name : String) : Option (Value → Bool) :=
  match name with
  | "double" => some fun v => match v with | .float _ => true | _ => false
  | "string" => some fun v => match v with | .text _ => true | _ => false
  | "object" => some fun v => match v with | .record _ => true | _ => false
  | "array" => some fun v => match v with | .list _ => true | _ => false
  | "bool" => some Value.isBool
  | "date" => some fun v => match v with | .moment _ => true | _ => false
  | "int" => some fun v => match v with | .int n => isShort n | _ => false
  | "long" => some fun v => match v with | .int n => !isShort n | _ => false
  | "decimal" | "binData" | "objectId" => some fun _ => false
  | _ => none

/-- The kinds of values that are known by name alone. -/
def otherKinds : List String :=
  ["undefined", "null", "regex", "dbPointer", "javascript", "symbol", "javascriptWithScope",
    "timestamp", "minKey", "maxKey"]

/-- Whether something found, or an item of it, is of a kind. -/
def isOfKind (found : Option Value) : Value → Except FilterFault Bool
  | .text name =>
      match isOfKind? name with
      | some test => .ok (found.any test || (spread found).any fun item => item.any test)
      | none =>
          if otherKinds.contains name then .error .notSupported
          else .error (.unknownKind (.text name))
  | .list _ => .error .notUsable
  | .record _ => .error .notUsable
  | operand => .error (.unknownKind operand)

/-- The things that a value is gone through by. -/
def membersOf : Value → Except FilterFault (List Value)
  | .list items => .ok items
  | .text s => .ok ((Text.letters s).map .text)
  | .record fields => .ok ((Fields.names fields).map .text)
  | _ => .error .notUsable

/-- Whether a value is something found or an item of it. -/
def isThere (found : Option Value) (v : Value) : Bool :=
  (spread found).any fun item => item.any v.same

/-- Whether all that a value is gone through by is something found or an item of it. -/
def hasAll (found : Option Value) (operand : Value) : Except FilterFault Bool :=
  (·.all (isThere (flattened found))) <$> membersOf operand

/-- Comparisons that no filter stands in. -/
def compare (options : Option Value) (word : String) (found : Option Value) (operand : Value) :
    Except FilterFault Bool :=
  match word with
  | "$eq" => .ok (someOf (equals operand) found operand)
  | "$ne" => .ok (allOf (fun item => !equals operand item) found operand)
  | "$gt" => .ok (someOf (stands [.gt] operand) found operand)
  | "$gte" => .ok (someOf (stands [.gt, .eq] operand) found operand)
  | "$lt" => .ok (someOf (stands [.lt] operand) found operand)
  | "$lte" => .ok (someOf (stands [.lt, .eq] operand) found operand)
  | "$in" => isMember found operand
  | "$nin" => (!·) <$> isMember found operand
  | "$exists" => .ok (operand.truthy == found.isSome)
  | "$size" => .ok ((sizeOf? found).any fun size => operand.same (.int size))
  | "$type" => isOfKind found operand
  | "$regex" => isPatternOf options found operand
  | "$options" => .ok true
  | _ => .ok false

/-- The comparisons that are known, beside those with filters in them. -/
def comparisons : List String :=
  ["$eq", "$ne", "$gt", "$gte", "$lt", "$lte", "$in", "$nin", "$exists", "$size", "$type", "$all",
    "$regex", "$not", "$elemMatch"]

/-- Comparisons that are known by name alone. -/
def otherComparisons : List String :=
  ["$bitsAllClear", "$bitsAllSet", "$bitsAnyClear", "$bitsAnySet", "$geoIntersects", "$geoWithin",
    "$maxDistance", "$minDistance", "$near", "$nearSphere"]

/-- Whether a word is known among the comparisons of a record. -/
def isKnown (wanted : Fields) (word : String) : Bool :=
  comparisons.contains word || (word == "$options" && wanted.has "$regex")

/-- Why the comparisons of a record cannot be made, if they cannot. -/
def wordFault? (wanted : Fields) : Option FilterFault :=
  let unknown := wanted.names.filter fun name => isWord name && !isKnown wanted name
  if unknown.any otherComparisons.contains then some .notSupported
  else unknown.head?.map .unknownComparison

/-- Whether something found is as a record tells: the comparisons in it hold, or, where it has none, it is
that record. -/
def asRecord (found : Option Value) (wanted : Fields) (holds : Except FilterFault Bool) :
    Except FilterFault Bool :=
  match wordFault? wanted with
  | some fault => .error fault
  | none => if wanted.names.any isWord then holds else .ok (isValue found (.record wanted))

/-- The options of the pattern among comparisons. -/
def optionsOf (wanted : Fields) : Option Value := wanted.get? "$options"

/-- The words of comparisons that must hold of all that a path leads to. -/
def negativeWords : List String := ["$ne", "$nin"]

/-- Whether what a path leads to is as it has to be: for a negative comparison all of it, else some of
it. -/
def judge (words : List String) (test : Option Value → Except FilterFault Bool)
    (found : List (Option Value)) : Except FilterFault Bool :=
  let positive := words.any (!negativeWords.contains ·)
  if words.any negativeWords.contains then do
    return (← found.allM test) && (!found.isEmpty || !positive)
  else do
    return (← found.anyM test) || (!positive && !found.any Option.isSome)

/-! ### Filters in filters -/

/-- The words under which filters are joined. -/
def junctions : List String := ["$or", "$and", "$nor"]

/-- The words that the store knows at the head of a filter but cannot apply. -/
def otherHeads : List String := ["$text", "$where", "$jsonSchema"]

/-- What is wrong with what is joined, when it is no list. -/
def notJoinable : Value → FilterFault
  | .record _ => .notRecord
  | .text _ => .notRecord
  | _ => .notUsable

/-- Join what filters tell, as far as it has to be known. -/
def join (word : String) (told : List (Unit → Except FilterFault Bool)) :
    Except FilterFault Bool := do
  if word == "$and" then told.allM fun one => one ()
  else
    let some? ← told.anyM fun one => one ()
    return some? != (word == "$nor")

/-- The part of a filter under a name: filters that are joined, a term, or what a field has to be. -/
def atHead (document : Value) (name : String) (wanted : Value)
    (joined compared : Except FilterFault Bool) : Except FilterFault Bool :=
  if name == "$comment" then .ok true
  else if junctions.contains name then joined
  else if name == "$expr" then Value.truthy <$> Term.evaluate document wanted
  else if otherHeads.contains name then .error .notSupported
  else if isWord name then .error (.unknownJunction name)
  else compared

/-- A filter that fails on an item as a document may be one of comparisons on the item itself. -/
def orElse (first second : Except FilterFault Bool) : Except FilterFault Bool :=
  match first with
  | .error fault => if fault.isStorage then second else first
  | .ok _ => first

/-- Whether an item of a list meets a filter, as a document or as the value of a field. -/
def someItem (one : Option Value) (asDocument asValue : Value → Except FilterFault Bool) :
    Except FilterFault Bool :=
  match one with
  | some (.list items) => items.anyM fun item => orElse (asDocument item) (asValue item)
  | _ => .ok false

/-- What a filter of items that is no record tells. -/
def notItemFilter (one : Option Value) : Except FilterFault Bool :=
  match one with
  | some (.list _) => .error (.needsRecord "$elemMatch" "an Object")
  | _ => .ok false

/-- Why comparisons cannot be denied, if they cannot: all of them must be known. -/
def denialFault? (wanted : Fields) : Option FilterFault :=
  let isDeniable (name : String) : Bool :=
    (comparisons.contains name && name != "$not") || junctions.contains name
  (wanted.names.find? (!isDeniable ·)).map .unknownComparison

mutual

/-- Whether a document, or whatever stands for one, meets a filter. -/
def meetsAll (document : Value) : List (String × Value) → Except FilterFault Bool
  | [] => .ok true
  | (name, wanted) :: rest => do
      if ← meets document name wanted then meetsAll document rest else return false

/-- Whether one part of a filter is met. -/
def meets (document : Value) (name : String) : Value → Except FilterFault Bool
  | .record wanted =>
      atHead document name (.record wanted)
        (.error (if wanted.isEmpty then .emptyJunction else .notRecord))
        (do
          let found ← reachBy name document
          judge (Fields.names wanted)
            (fun one => asRecord one wanted (holdAll found one (optionsOf wanted) wanted)) found)
  | .list wanted =>
      atHead document name (.list wanted)
        (if wanted.isEmpty then .error .emptyJunction else join name (eachMeets document wanted))
        (do judge [name] (fun one => .ok (isValue one (.list wanted))) (← reachBy name document))
  | wanted =>
      atHead document name wanted
        (.error (if wanted.truthy then notJoinable wanted else .emptyJunction))
        (do judge [name] (fun one => .ok (isValue one wanted)) (← reachBy name document))

/-- What each of several filters tells of a document. -/
def eachMeets (document : Value) : List Value → List (Unit → Except FilterFault Bool)
  | [] => []
  | .record filter :: rest => (fun _ => meetsAll document filter) :: eachMeets document rest
  | _ :: rest => (fun _ => .error .notRecord) :: eachMeets document rest

/-- Whether comparisons hold of something that a path led to. -/
def holdAll (found : List (Option Value)) (one options : Option Value) :
    List (String × Value) → Except FilterFault Bool
  | [] => .ok true
  | (word, operand) :: rest => do
      if ← holds found one options word operand then holdAll found one options rest
      else return false

/-- Whether one comparison holds of something that a path led to. -/
def holds (found : List (Option Value)) (one options : Option Value) (word : String) :
    Value → Except FilterFault Bool
  | .record wanted =>
      if word == "$not" then
        match denialFault? wanted with
        | some fault => .error fault
        | none =>
            (!·) <$> judge (Fields.names wanted)
              (fun other => asRecord other wanted (holdAll found other (optionsOf wanted) wanted))
              found
      else if word == "$elemMatch" then
        someItem one (fun item => meetsAll item wanted) fun item =>
          asRecord (some item) wanted (holdAll [some item] (some item) (optionsOf wanted) wanted)
      else if word == "$all" then hasAll one (.record wanted)
      else compare options word one (.record wanted)
  | .list wanted =>
      if word == "$not" then .error (.needsRecord "$not" "a regex or a document")
      else if word == "$elemMatch" then notItemFilter one
      else if word == "$all" then (·.all id) <$> holdEach (flattened one) wanted
      else compare options word one (.list wanted)
  | operand =>
      if word == "$not" then .error (.needsRecord "$not" "a regex or a document")
      else if word == "$elemMatch" then notItemFilter one
      else if word == "$all" then hasAll one operand
      else compare options word one operand

/-- Whether each of several values is something that a path led to, or an item of it. A record with a filter
of items stands for that filter. -/
def holdEach (one : Option Value) : List Value → Except FilterFault (List Bool)
  | [] => .ok []
  | .record wanted :: rest => do
      let holds ← (itemFilter one wanted).getD (.ok (isThere one (.record wanted)))
      return holds :: (← holdEach one rest)
  | v :: rest => do return isThere one v :: (← holdEach one rest)

/-- What the filter of items among the fields of a record tells, if there is one. -/
def itemFilter (one : Option Value) : List (String × Value) → Option (Except FilterFault Bool)
  | [] => none
  | (name, .record wanted) :: rest =>
      if name == "$elemMatch" then
        some (someItem one (fun item => meetsAll item wanted) fun item =>
          asRecord (some item) wanted (holdAll [some item] (some item) (optionsOf wanted) wanted))
      else itemFilter one rest
  | (name, _) :: rest => if name == "$elemMatch" then some (notItemFilter one) else itemFilter one rest

end

/-- Whether a document meets a filter. -/
def query (filter : Value) : Query := fun document =>
  match filter with
  | .record wanted => meetsAll (.record document) (Value.storedFields wanted)
  | _ => .error .notRecord

end Filter

namespace Query

/-- The query that every document meets. -/
def all : Query := fun _ => .ok true

/-- The query for the value of a field; a record tells of it by comparisons. -/
def field (name : String) (wanted : Value) : Query := fun document =>
  match wanted with
  | .record comparisons => Filter.query (.record [(name, .record comparisons)]) document
  | wanted => .ok (document.meets name wanted.stored)

/-- The documents that meet both queries; the second is not asked where the first is not met. -/
def both (first second : Query) : Query := fun document => do
  if ← first document then second document else return false

theorem field_text (name s : String) (document : Document) :
    field name (.text s) document = .ok (document.meets name (.text s)) := rfl

end Query

end Countersign
