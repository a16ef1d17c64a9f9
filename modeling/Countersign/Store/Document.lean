/-
Module: Countersign.Store.Document
Purpose: Stored documents, their identity, and their order by a field.
Main exports: Document, Document.meets, SortKey, Document.noLaterThan
-/
import Countersign.Value.Order

namespace Countersign

/-!
A document has any fields. A field that it lacks counts as null wherever its value is asked for. A field
that is a list meets a value that the list holds. Documents that no key tells apart stay in the order in
which they were put in.
-/

/-- A stored record. -/
abbrev Document := Fields

/-- Whether a value is asked for by another: it is the same, or a list that holds the same. -/
def Value.meets (v wanted : Value) : Bool :=
  v.same wanted ||
    match v with
    | .list items => items.any (·.same wanted)
    | _ => false

namespace Document

/-- Whether the field of a name meets a value. -/
def meets (document : Document) (name : String) (wanted : Value) : Bool :=
  (Fields.getD document name).meets wanted

/-- The name of a document's own identity, which documents need not have. -/
def identity : String := "_id"

/-- Whether two values that may be missing are the same. -/
def sameOrMissing : Option Value → Option Value → Bool
  | some v, some w => v.same w
  | none, none => true
  | _, _ => false

/-- Whether two documents have the same identity. -/
def sameIdentity (left right : Document) : Bool :=
  (Fields.has left identity)
    && sameOrMissing (Fields.get? left identity) (Fields.get? right identity)

/-- The document as the store keeps it. -/
def kept (document : Document) : Document := Value.storedFields document

end Document

/-- A field to sort by, and the direction. -/
structure SortKey where
  name : String
  descending : Bool := false
deriving DecidableEq, Repr

namespace Document

/-- The value by which a document is sorted: of a list its first item. -/
def sortValue : Value → Value
  | .list (first :: _) => first
  | v => v

/-- An empty list comes in front of everything. -/
def sortsFirst : Value → Bool
  | .list [] => true
  | _ => false

/-- Whether the value of one field comes before that of another. -/
def valuePrecedes (left right : Value) : Bool :=
  match sortsFirst left, sortsFirst right with
  | true, right => !right
  | false, true => false
  | false, false => (sortValue left).before (sortValue right)

/-- Whether one document must come before another by a key. -/
def precedesBy (key : SortKey) (left right : Document) : Bool :=
  let l := Fields.getD left key.name
  let r := Fields.getD right key.name
  if key.descending then valuePrecedes r l else valuePrecedes l r

/-- Whether one document may stand before another: the first key that tells them apart decides. -/
def noLaterThan : List SortKey → Document → Document → Bool
  | [], _, _ => true
  | key :: keys, left, right =>
      if precedesBy key left right then true
      else if precedesBy key right left then false
      else noLaterThan keys left right

end Document

end Countersign
