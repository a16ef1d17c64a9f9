/-
Module: Countersign.Store.Change
Purpose: Changes of documents, which may stop half-way.
Main exports: Change, Changed, Change.set, Change.setAll, Change.assignAll, Change.increment,
  Value.assign, Finding
-/
import Countersign.Store.Filter

namespace Countersign

/-!
A change goes through its parts in order. Where one of them is refused, the change stops, and the
document keeps what was changed before. A part names a field of the document, or gives a path to a part
of it; on the way records are made where there is nothing yet.
-/

/-- How far a change came, and why it stopped there, if it did. -/
structure Changed where
  document : Document
  stopped : Option StoreFault := none
deriving Repr

/-- A change of documents. -/
abbrev Change := Document → Changed

/-- Why the store does not keep a field, if it does not. The names of fields do not begin as words do. -/
def Document.fieldFault? (name : String) (v : Value) : Option StoreFault :=
  if Filter.isWord name then some .notStorable else (Value.nameFault? name).or v.storeFault?

namespace Change

def nothing : Change := fun document => ⟨document, none⟩

/-- One change, and then another unless the first one stopped. -/
def andThen (first second : Change) : Change := fun document =>
  let outcome := first document
  match outcome.stopped with
  | some _ => outcome
  | none => second outcome.document

/-- A change that stops before it began. -/
def refuse (fault : StoreFault) : Change := fun document => ⟨document, some fault⟩

/-- Give a field of the document a value. -/
def set (name : String) (v : Value) : Change := fun document =>
  match Document.fieldFault? name v with
  | some fault => ⟨document, some fault⟩
  | none => ⟨Fields.put document name v.stored, none⟩

def setAll : Fields → Change
  | [] => nothing
  | (name, v) :: rest => (set name v).andThen (setAll rest)

/-- One more than a number; what is missing counts as 0. -/
def increment? : Option Value → Option Value
  | none => some (.int 1)
  | some (.int n) => some (.int (n + 1))
  | some (.float x) => some (.float (x.add (Double.ofRatio false 1 1)))
  | some (.bool b) => some (.int (Value.ofBool b + 1))
  | some _ => none

/-- Make the number in a field one more. -/
def increment (name : String) : Change := fun document =>
  match increment? (Fields.get? document name) with
  | some v => ⟨Fields.put document name v, none⟩
  | none => ⟨document, some .notUsable⟩

end Change

/-! ### Paths -/

namespace Value

/-- What became of a part of a document, and why its change stopped there, if it did. -/
abbrev Outcome := Value × Option StoreFault

/-- The items of a list with one of them replaced; places after the end are filled with nulls. -/
def setItem (items : List Value) (place : Nat) (v : Value) : List Value :=
  (items ++ List.replicate (place + 1 - items.length) Value.null).set place v

/-- Put a value under a name: in a record, or at a place of a list. Anything else stays as it is. -/
def give (name : String) (v whole : Value) : Outcome :=
  match Document.fieldFault? name v with
  | some fault => (whole, some fault)
  | none =>
      match whole with
      | .record fields => (.record (Fields.put fields name v.stored), none)
      | .list items =>
          match Numeral.readInteger? name with
          | none => (whole, some (.notPlace name))
          | some place =>
              if place < 0 then (whole, some .placeNegative)
              else (.list (setItem items place.toNat v.stored), none)
      | whole => (whole, none)

/-- Change an item of a list. -/
def inItem (items : List Value) (place : Int) (step : Value → Outcome) : Outcome :=
  match Term.itemAt? items place with
  | none => (.list items, some .placeMissing)
  | some item =>
      let index := if 0 ≤ place then place.toNat else (items.length + place).toNat
      let (changed, fault) := step item
      (.list (items.set index changed), fault)

/-- Put a value where a path leads to. A path through anything but a record or a list leads nowhere. -/
def assign (v : Value) : List String → Value → Outcome
  | [], whole => (whole, none)
  | [name], whole => give name v whole
  | name :: rest, .record fields =>
      let (inner, fault) := assign v rest ((Fields.get? fields name).getD (.record []))
      (.record (Fields.put fields name inner), fault)
  | name :: rest, .list items =>
      match Numeral.readInteger? name with
      | none => assign v rest (.list items)
      | some place => inItem items place (assign v rest)
  | _, whole => (whole, none)

end Value

/-! ### Places that the filter found -/

/-!
A path may hold a `$`, which stands for the place in a list at which an item meets the filter of the
document, or what of the filter is about the items of the list. The part of the document that the first such
path led to is taken for the other paths too, as long as it is not empty.
-/

/-- A step from a value to a part of it. -/
inductive PartKey where
  | name (s : String)
  | place (index : Nat)
deriving DecidableEq, Repr

/-- The part of a value that steps lead to. -/
def Value.partAt : List PartKey → Value → Value
  | [], v => v
  | .name s :: rest, .record fields => partAt rest (Fields.getD fields s)
  | .place index :: rest, .list items => partAt rest (items[index]?.getD .null)
  | _, _ => .null

/-- Change the part of a value that steps lead to. -/
def Value.alterAt (step : Value → Value.Outcome) : List PartKey → Value → Value.Outcome
  | [], v => step v
  | .name s :: rest, .record fields =>
      let (part, fault) := alterAt step rest (Fields.getD fields s)
      (.record (Fields.put fields s part), fault)
  | .place index :: rest, .list items =>
      let (part, fault) := alterAt step rest (items[index]?.getD .null)
      (.list (items.set index part), fault)
  | _, v => (v, none)

/-- A part of a document by the way to it, or a value that is not a part of it. -/
inductive Spot where
  | inside (path : List PartKey)
  | outside (v : Value)
deriving Repr

namespace Spot

/-- The value at a spot. -/
def value (document : Value) : Spot → Value
  | inside path => document.partAt path
  | outside v => v

/-- Change what is at a spot. -/
def alter (step : Value → Value.Outcome) (document : Value) : Spot → Value.Outcome
  | inside path => document.alterAt step path
  | outside v => (document, (step v).2)

/-- The spots that a value is gone through by. -/
def members (document : Value) (spot : Spot) : Except StoreFault (List Spot) :=
  match spot, spot.value document with
  | inside path, .list items =>
      .ok ((List.range items.length).map fun index => inside (path ++ [.place index]))
  | _, v =>
      match Filter.membersOf v with
      | .ok members => .ok (members.map outside)
      | .error _ => .error .notUsable

/-- The part of a record under a name. -/
def field (document : Value) (spot : Spot) (name : String) : Except StoreFault Spot :=
  match spot, spot.value document with
  | inside path, .record fields =>
      if Fields.has fields name then .ok (inside (path ++ [.name name])) else .error .fieldMissing
  | outside _, .record fields =>
      match Fields.get? fields name with
      | some v => .ok (outside v)
      | none => .error .fieldMissing
  | _, _ => .error .notUsable

end Spot

namespace Filter

/-- Whether a name begins with a part. -/
def begins (part name : String) : Bool := part.toList.isPrefixOf name.toList

/-- What of a filter is about what a name leads to, given what was found of it so far. -/
def narrowed (part : String) : Value → Fields → Except StoreFault Value
  | found, [] => .ok found
  | found, (name, wanted) :: rest =>
      if !begins part name then narrowed part found rest
      else match Text.pathParts name with
        | _ :: below@(_ :: _) =>
            match found with
            | .record fields =>
                narrowed part (.record (Fields.put fields (".".intercalate below) wanted)) rest
            | _ => .error .notUsable
        | _ => narrowed part wanted rest

/-- What of a filter is about what a name leads to. -/
def narrow (part : String) : Value → Except StoreFault Value
  | .record fields => narrowed part (.record []) fields
  | .text s =>
      if (Text.letters s).any (begins part) then .error .notUsable else .ok (.record [])
  | .list items =>
      if items.any fun v => v.text?.isNone then .error .partless
      else if items.any fun v => v.text?.any (begins part) then .error .notUsable
      else .ok (.record [])
  | _ => .error .notUsable

/-- The filter for the items of a list. -/
def forItems : Value → Except StoreFault Value
  | .record wanted => .ok ((Fields.get? wanted "$elemMatch").getD (.record wanted))
  | _ => .error .partless

/-- Whether an item meets a filter. -/
def meetsItem (wanted item : Value) : Except StoreFault Bool :=
  match wanted with
  | .record wanted => (meetsAll item wanted).mapError .filter
  | _ => .error (.filter .notRecord)

/-- The first of several spots that meets a filter. -/
def firstMet? (document wanted : Value) : List Spot → Except StoreFault (Option Spot)
  | [] => .ok none
  | spot :: rest => do
      if ← meetsItem (← forItems wanted) (spot.value document) then return some spot
      else firstMet? document wanted rest

/-- The spot that a path with places to be found leads to, and what of the filter is about it. -/
def follow (document : Value) : List String → Spot → Value → Except StoreFault (Spot × Value)
  | [], spot, wanted => .ok (spot, wanted)
  | part :: rest, spot, wanted => do
      if part == "$" then
        let _ ← forItems wanted
        let found ← firstMet? document wanted (← spot.members document)
        follow document rest (found.getD spot) wanted
      else
        let wanted ← narrow part wanted
        follow document rest (← spot.field document part) wanted

end Filter

/-- How far paths with places to be found came: the document, the part that other paths begin at, and the part
that was found. -/
structure Finding where
  document : Value
  start : Spot := .inside []
  found : Option Spot := none

namespace Finding

/-- The same finding with the document changed at a spot. -/
def alter (finding : Finding) (spot : Spot) (step : Value → Value.Outcome) :
    Finding × Option StoreFault :=
  let (document, fault) := spot.alter step finding.document
  ({ finding with document }, fault)

/-- Replace the item of a list that meets a filter. The item that was looked at last is then what other paths
begin at. -/
def replaceItem (finding : Finding) (spot : Spot) (wanted v : Value) (members : List Spot) :
    Finding × Option StoreFault :=
  match Filter.firstMet? finding.document wanted members with
  | .error fault => (finding, some fault)
  | .ok (some met) =>
      let before := met.value finding.document
      { finding with found := some spot, start := .outside before }.alter met fun _ => (v.stored, none)
  | .ok none =>
      ({ finding with found := some spot, start := members.getLast?.getD finding.start }, none)

/-- Whether a list is at a spot. -/
def isListAt (finding : Finding) (spot : Spot) : Bool :=
  match spot.value finding.document with
  | .list _ => true
  | _ => false

/-- Put a value where a path leads to that may have places to be found. -/
def assign (finding : Finding) (wanted : Fields) (path : String) (v : Value) :
    Finding × Option StoreFault :=
  let parts := Text.pathParts path
  let last := parts.getLastD ""
  if !path.toList.contains '$' then finding.alter finding.start (v.assign parts)
  else match finding.found.filter fun spot => (spot.value finding.document).truthy with
    | some spot => finding.alter spot (Value.give last v)
    | none =>
        match Filter.follow finding.document parts.dropLast finding.start (.record wanted) with
        | .error fault => (finding, some fault)
        | .ok (spot, wanted) =>
            if last == "$" && finding.isListAt spot then
              match spot.members finding.document with
              | .ok members => finding.replaceItem spot wanted v members
              | .error fault => (finding, some fault)
            else { finding with found := some spot }.alter spot (Value.give last v)

/-- Put several values where their paths lead to, up to the first that cannot be put. -/
def assignAll (finding : Finding) (wanted : Fields) : Fields → Finding × Option StoreFault
  | [] => (finding, none)
  | (path, v) :: rest =>
      match finding.assign wanted path v with
      | (finding, none) => finding.assignAll wanted rest
      | stopped => stopped

end Finding

namespace Change

/-- Put values where paths, their parts joined by points, lead to in a document that a filter found. -/
def assignAll (wanted updates : Fields) : Change := fun document =>
  let (finding, fault) := ({ document := .record document } : Finding).assignAll wanted updates
  match finding.document with
  | .record changed => ⟨changed, fault⟩
  | _ => ⟨document, fault⟩

end Change

end Countersign
