/-
Module: Countersign.Store.Term.Node
Purpose: What terms over documents are made of, and what names in them stand for.
Main exports: Term.Scope, Term.Meaning, Term.Node, Term.valueBy, Term.referred
-/
import Countersign.Number.Numeral
import Countersign.Store.Fault
import Countersign.Text.Split
import Countersign.Value.Order

namespace Countersign.Term

/-!
An operation is given a node: a value as it stands, what it stands for when it is read as a term, and the
nodes in it. Each operation says for itself which of these it looks at, so one that chooses between terms
reads only the one that it chooses. A field that is missing has no value; some operations take null for it,
others have no outcome then.
-/

/-- What a term is read against: a document, and the values that terms around it have named. -/
structure Scope where
  document : Value
  named : Fields := []

/-- What a term stands for. -/
abbrev Meaning := Scope → Except FilterFault Value

/-- A value in a term. -/
inductive Node where
  | mk (operand : Value) (meaning : Meaning) (items : List Node) (fields : List (String × Node))

instance : Inhabited Node := ⟨.mk .null (fun _ => .ok .null) [] []⟩

namespace Node

/-- The value as it stands. -/
def operand : Node → Value
  | mk operand _ _ _ => operand

/-- What the value stands for as a term. -/
def meaning : Node → Meaning
  | mk _ meaning _ _ => meaning

def items : Node → List Node
  | mk _ _ items _ => items

def fields : Node → List (String × Node)
  | mk _ _ _ fields => fields

def field? (node : Node) (name : String) : Option Node := node.fields.lookup name

/-- What the value stands for, null when a field is missing. -/
def valueOrNull (node : Node) (scope : Scope) : Except FilterFault Value :=
  match node.meaning scope with
  | .error .fieldMissing => .ok .null
  | outcome => outcome

/-- What the value stands for, nothing when a field is missing. -/
def value? (node : Node) (scope : Scope) : Except FilterFault (Option Value) :=
  match node.meaning scope with
  | .error .fieldMissing => .ok none
  | .error fault => .error fault
  | .ok v => .ok (some v)

/-- Whether a value counts as true: all do but false, null and zero. -/
def countsAsTrue (v : Value) : Bool := !(v.same (.bool false) || v.same .null)

/-- Whether what the value stands for counts as true. What is missing does not. -/
def isTrue (node : Node) (scope : Scope) : Except FilterFault Bool :=
  (·.any countsAsTrue) <$> node.value? scope

end Node

/-! ### Names -/

/-- Whether a text begins with the sign of names and operations. -/
def isSigned (s : String) : Bool := s.toList.head? == some '$'

/-- A text without its first character. -/
def withoutSign (s : String) : String := String.ofList (s.toList.drop 1)

/-- The item at a place in a list; places below zero count from the end. -/
def itemAt? {α : Type} (items : List α) (place : Int) : Option α :=
  if 0 ≤ place then items[place.toNat]?
  else if -place ≤ items.length then items[(items.length + place).toNat]?
  else none

/-- The value that a path leads to. Through the records of a list it leads to the list of what it leads to
in each, once. -/
def valueBy (mayGather : Bool) : List String → Value → Except FilterFault Value
  | [], v => .ok v
  | name :: rest, .record fields =>
      match Fields.get? fields name with
      | some v => valueBy mayGather rest v
      | none => .error .fieldMissing
  | name :: rest, .list items =>
      match Numeral.readInteger? name with
      | some place =>
          match itemAt? items place with
          | some v => valueBy mayGather rest v
          | none => .error .fieldMissing
      | none =>
          if !mayGather then .error .fieldMissing
          else Value.list <$> items.mapM fun item =>
            match item with
            | .record fields =>
                match Fields.get? fields name with
                | some v => valueBy false rest v
                | none => .error .fieldMissing
            | _ => .error .fieldMissing
  | _, _ => .error .fieldMissing

/-- The names that stand for the whole document. -/
def wholeNames : List String := ["ROOT", "CURRENT"]

/-- All that is named in a scope. -/
def Scope.names (scope : Scope) : Fields :=
  Fields.putAll (wholeNames.map fun name => (name, scope.document)) scope.named

/-- The scope with one more name. -/
def Scope.naming (scope : Scope) (name : String) (v : Value) : Scope :=
  { scope with named := scope.named.put name v }

/-- The value that a text stands for: behind one sign a path from the document, behind two a path from
what is named, and otherwise itself. -/
def referred (s : String) : Meaning := fun scope =>
  if !isSigned s then .ok (.text s)
  else
    let name := withoutSign s
    if isSigned name then
      valueBy true (Text.pathParts (withoutSign name)) (.record scope.names)
    else valueBy true (Text.pathParts name) scope.document

/-- A text as a node. -/
def Node.ofText (s : String) : Node := .mk (.text s) (referred s) [] []

/-- The nodes that a value is gone through by. -/
def Node.parts (node : Node) : Except FilterFault (List Node) :=
  match node.operand with
  | .list _ => .ok node.items
  | .record fields => .ok ((Fields.names fields).map .ofText)
  | .text s => .ok ((Text.letters s).map .ofText)
  | _ => .error .notUsable

/-- As many nodes as an operation takes. -/
def Node.exactly (count : Nat) (node : Node) : Except FilterFault (List Node) := do
  let parts ← node.parts
  if parts.length = count then return parts else throw (.wrongCount count parts.length)

/-- The values that a value is gone through by. -/
def membersOf : Value → Except FilterFault (List Value)
  | .list items => .ok items
  | .text s => .ok ((Text.letters s).map .text)
  | .record fields => .ok ((Fields.names fields).map .text)
  | _ => .error .notUsable

end Countersign.Term
